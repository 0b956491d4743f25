import Deployer.Proofs.Activity.Coupled
import Deployer.Proofs.Exchange.Conduct

/-!
# What credentials influence

Two clients are made from options that differ in nothing but the credentials in the address. Whatever steps
they take, and whatever the service does, they make the same requests but for their authorization
(`Request.anonymous`), and come to the same results but for the URL that a fault shows which befell a request
as a whole (`Error.showing`). That URL is without credentials, and so the same, where the credentials are
`Legible`; credentials that cannot be decoded stay in it (`step_shows_illegible`).

The two clients are compared as coupled activities: exchange, retried run, layers, call, step, run.
-/

namespace Deployer

open Activity Exchange

variable {σ : Type}

/-! ### What may differ -/

/-- A request without what tells who makes it, and without its id. -/
def Request.anonymous (request : Request) : Request :=
  { request with authorization := none, requestId := "" }

/-- A fault that befell a request as a whole, with another detail; any other fault as it is. -/
def TransportFault.showing (detail : String) : TransportFault → TransportFault
  | connect _ => connect detail
  | request _ => request detail
  | fault => fault

/-- An error with another detail where a request failed as a whole, also in the last attempt. -/
def Error.showing (detail : String) : Error → Error
  | transport fault => transport (fault.showing detail)
  | exhausted attempts last => exhausted attempts (last.showing detail)
  | e => e

/-- The result of a step with another detail where a request failed as a whole. -/
def StepResult.showing (detail : String) : StepResult → StepResult
  | called result => called (result.mapError (Error.showing detail))
  | result => result

theorem StepResult.Related.eq_showing {detail : String} {result result' : StepResult}
    {W : Except Error Deployment → Except Error Deployment → Prop}
    (hW : ∀ x y, W x y → x.mapError (Error.showing detail) = y) (h : Related W result result') :
    result' = result.showing detail := by
  rcases h with ⟨hxy⟩ | _ | _
  · rw [← hW _ _ hxy]
    rfl
  · rfl
  · rfl

/-- The same requests are made in two traces, but for their authorization. -/
def SameRequests : List (Entry Request) → List (Entry Request) → Prop :=
  OfCalls fun calls calls' => calls'.map Request.anonymous = calls.map Request.anonymous

/-- The log makes no requests. -/
private theorem sameRequests_logged (event event' : Event) :
    SameRequests [.logged event none] [.logged event' none] := rfl

private theorem rewords_showing (detail : String) : Rewords (Error.showing detail) where
  isRetryable e := by cases e <;> rfl
  exhausted _ _ := rfl
  cancelled := rfl
  rateLimited _ := rfl
  service _ := rfl
  unexpected _ := rfl

private theorem overlooks_sameRequests (detail : String) :
    Overlooks SameRequests (Error.showing detail) where
  toRewords := rewords_showing detail
  nil := rfl
  append hab hcd := by
    rw [SameRequests, OfCalls] at hab hcd ⊢
    rw [List.filterMap_append, List.filterMap_append, List.map_append, List.map_append, hab, hcd]
  logged _ := rfl
  retrying _ _ _ _ := rfl
  gaveUp _ _ _ := rfl

/-! ### One exchange -/

section

variable {transport transport' : Transport} {url url' : Url} {d : Deployment}

/-- Outcomes of requests for two URLs agree but for the URL. -/
abbrev AgreeShowing {α : Type} (url' : Url) : Except Error α → Except Error α → σ → Prop :=
  Agree (Error.showing (sendingDetail url')) (fun _ => True) (Same fun _ => True)

/-- Errors that agree but for what they show end activities that agree. -/
private theorem coupled_error {e e' : Error} (h : e.showing (sendingDetail url') = e') :
    Coupled SameRequests (fun _ => True) (AgreeShowing url')
      (pure (.error e) : Activity Request σ (Except Error Reply)) (pure (.error e')) := by
  refine coupled_pure (overlooks_sameRequests (sendingDetail url')).toCumulative fun _ hstate => ?_
  rw [← h]
  exact .error hstate

/-- A body is decoded alike; only the log shows the URL. -/
private theorem coupled_decode (status : UInt16) (body : Bytes) :
    Coupled SameRequests (fun _ => True) (AgreeShowing url')
      (decode url status body : Activity Request σ _) (decode url' status body) := by
  have hT := (overlooks_sameRequests (sendingDetail url')).toCumulative
  rw [decode, decode]
  cases Json.Value.parse body with
  | ok value => exact coupled_pure hT fun _ hstate => .ok ⟨rfl, hstate⟩
  | error detail =>
    exact (coupled_log_of (sameRequests_logged _ _)).bind hT (.of_same fun _ => coupled_error rfl)

/-- **What an answer comes to** does not depend on the URL, but for what faults show. -/
theorem coupled_receive (htimeout : transport'.timeout = transport.timeout) (answer : Answer) :
    Coupled SameRequests (fun _ => True) (AgreeShowing url')
      (receive transport url answer : Activity Request σ _) (receive transport' url' answer) := by
  have hT := (overlooks_sameRequests (sendingDetail url')).toCumulative
  cases answer with
  | reply status body =>
    rw [receive, receive]
    split
    · exact coupled_error rfl
    · exact coupled_decode status _
  | cutShort status =>
    rw [receive, receive]
    split
    · exact coupled_error rfl
    · split
      · exact coupled_error rfl
      · exact coupled_decode status []
  | dropped => exact coupled_error rfl
  | silent =>
    rw [receive, receive, htimeout]
    refine (coupled_pause hT _).bind hT (.of_same fun cancelled => ?_)
    cases cancelled with
    | true => exact coupled_error rfl
    | false => exact coupled_error rfl
  | abandoned => exact (coupled_cancel hT).bind hT (.of_same fun _ => coupled_error rfl)

/-- **One exchange** over two URLs with the same path. -/
theorem coupled_endpoint (hagent : transport'.userAgent = transport.userAgent)
    (htimeout : transport'.timeout = transport.timeout) (service : Service)
    (hpath : url'.path = url.path) :
    Coupled SameRequests (fun _ => True) (AgreeShowing url') (endpoint transport service url d)
      (endpoint transport' service url' d) := by
  have hT := (overlooks_sameRequests (sendingDetail url')).toCumulative
  rw [endpoint, endpoint]
  refine (coupled_state hT).bind hT (.of_same fun world => ?_)
  refine (coupled_log_of (sameRequests_logged _ _)).bind hT (.of_same fun _ => ?_)
  cases service with
  | closed => exact (coupled_setState hT trivial).bind hT (.of_same fun _ => coupled_error rfl)
  | listening answer =>
    refine (coupled_setState hT trivial).bind hT (.of_same fun _ => ?_)
    refine (coupled_reach ?_).bind hT (.of_same fun _ => coupled_receive htimeout _)
    rw [request, request, hagent, hpath]
    rfl

end

/-! ### Clients -/

/-- What is the same in two blueprints whose options differ in nothing but the credentials. -/
structure Blueprint.SameButCredentials (b b' : Blueprint) : Prop where
  quota : b'.quota = b.quota
  policy : b'.policy = b.policy
  url (operation : Operation) :
    (b'.url operation).withoutCredentials = (b.url operation).withoutCredentials

/-- Credentials are no part of the path. -/
theorem Url.path_eq_of_withoutCredentials {u u' : Url}
    (h : u'.withoutCredentials = u.withoutCredentials) : u'.path = u.path := by
  have hpath := congrArg Url.path h
  exact hpath

/-- A quota is what it admits. -/
theorem Quota.eq_of_eq {q q' : Quota} (hrefill : q.refill = q'.refill) (hburst : q.burst = q'.burst) :
    q = q' := by
  obtain ⟨refill, burst, _, _⟩ := q
  cases hrefill
  cases hburst
  rfl

theorem Options.sameButCredentials {o o' : Options} {b b' : Blueprint} (h : o.blueprint = .ok b)
    (h' : o'.blueprint = .ok b') (hoptions : { o with address := o'.address } = o')
    (hbase : b'.base.withoutCredentials = b.base.withoutCredentials) : b.SameButCredentials b' := by
  obtain ⟨-, hpolicy, hrefill, hburst, hcreate, hget⟩ := eq_of_blueprint_eq_ok h
  obtain ⟨-, hpolicy', hrefill', hburst', hcreate', hget'⟩ := eq_of_blueprint_eq_ok h'
  obtain ⟨address', _, _, _, _, _, _⟩ := o'
  cases hoptions
  have hurl (path : String) : (Address.operationUrl b'.base path).withoutCredentials =
      (Address.operationUrl b.base path).withoutCredentials := by
    have hpath : b'.base.path = b.base.path := Url.path_eq_of_withoutCredentials hbase
    have hextended := congrArg (fun u : Url => { u with path := b.base.path.extend path.toList }) hbase
    rw [Address.operationUrl, Address.operationUrl, hpath]
    exact hextended
  refine ⟨Quota.eq_of_eq (hrefill'.trans hrefill.symm) (hburst'.trans hburst.symm),
    hpolicy'.trans hpolicy.symm, fun operation => ?_⟩
  · cases operation with
    | create =>
      rw [Blueprint.url, Blueprint.url, hcreate, hcreate']
      exact hurl _
    | get =>
      rw [Blueprint.url, Blueprint.url, hget, hget']
      exact hurl _

/-- The result of a step with the URL that a client shows where a request failed as a whole. -/
def Blueprint.showing (b : Blueprint) : Step → StepResult → StepResult
  | .call call, result => result.showing (sendingDetail (b.url call.operation))
  | .sleep _, result => result
  | .cancel, result => result

section

variable {b b' : Blueprint} {transport transport' : Transport}

/-- **The calls of two clients** whose blueprints differ in nothing but the credentials. -/
theorem coupled_perform_of_sameButCredentials (h : b.SameButCredentials b')
    (hagent : transport'.userAgent = transport.userAgent)
    (htimeout : transport'.timeout = transport.timeout) (service : Service) (operation : Operation)
    (request : Deployment) :
    Coupled SameRequests (fun _ => True) (AgreeShowing (b'.url operation))
      ((b.client transport service).perform operation request)
      ((b'.client transport' service).perform operation request) := by
  have hf := overlooks_sameRequests (sendingDetail (b'.url operation))
  have hpath := Url.path_eq_of_withoutCredentials (h.url operation)
  have hwrap : Coupled SameRequests (fun _ => True) (AgreeShowing (b'.url operation))
      (Layer.wrap operation Blueprint.layers (endpoint transport service (b.url operation)) request)
      (Layer.wrap operation Blueprint.layers (endpoint transport' service (b'.url operation))
        request) :=
    coupled_limited hf (fun _ _ h => h) (coupled_traced operation
      (coupled_endpoint hagent htimeout service hpath))
  cases operation with
  | create =>
    exact coupled_createDeployment hf h.policy hwrap (coupled_resolve_same hf .create)
      fun _ _ h => .error h
  | get =>
    exact coupled_latestDeployment hf hwrap (coupled_resolve_same hf .get) fun _ _ h => .error h

/-- **Step.** A step of either client leaves the session alike, after the same time and the same requests but
for their authorization, with the same result but for the URL that is shown. -/
theorem step_of_sameButCredentials (h : b.SameButCredentials b')
    (hagent : transport'.userAgent = transport.userAgent)
    (htimeout : transport'.timeout = transport.timeout) (service : Service)
    (s : Session (World Traffic)) (step : Step) :
    let ran := s.step (b.client transport service) step
    let ran' := s.step (b'.client transport' service) step
    ran'.2 = ran.2 ∧ ran'.1.elapsed = ran.1.elapsed ∧
      ran'.1.calls.map Request.anonymous = ran.1.calls.map Request.anonymous ∧
      ran'.1.result = b'.showing step ran.1.result := by
  intro ran ran'
  obtain ⟨hsession, hresult, helapsed, hcalls⟩ := Session.coupled_step
    (overlooks_sameRequests "").toCumulative (P := fun _ => True)
    (W := fun x y _ => ∀ call, step = .call call →
      x.mapError (Error.showing (sendingDetail (b'.url call.operation))) = y) s step trivial (by
        rintro call rfl
        refine (coupled_perform_of_sameButCredentials h hagent htimeout service call.operation
          call.request).imp fun hagree call' hcall => ?_
        cases hcall
        exact mapError_of_agree hagree)
  refine ⟨hsession, helapsed, hcalls, ?_⟩
  cases step with
  | call call => exact hresult.eq_showing fun _ _ h => h call rfl
  | sleep _ => rfl
  | cancel => rfl

/-- **Run.** So do any steps, one by one. -/
theorem run_of_blueprint_sameButCredentials (h : b.SameButCredentials b')
    (hagent : transport'.userAgent = transport.userAgent)
    (htimeout : transport'.timeout = transport.timeout) (service : Service)
    (s : Session (World Traffic)) (steps : List Step) :
    let ran := s.run (b.client transport service) steps
    let ran' := s.run (b'.client transport' service) steps
    ran'.2 = ran.2 ∧ ran'.1.map Report.elapsed = ran.1.map Report.elapsed ∧
      ran'.1.map (·.calls.map Request.anonymous) = ran.1.map (·.calls.map Request.anonymous) ∧
      ran'.1.map Report.result = List.zipWith b'.showing steps (ran.1.map Report.result) := by
  induction steps generalizing s with
  | nil => simp [Session.run]
  | cons first rest ih =>
    obtain ⟨hnext, helapsed, hcalls, hresult⟩ :=
      step_of_sameButCredentials h hagent htimeout service s first
    obtain ⟨hlast, helapseds, hcallss, hresults⟩ := ih (s.step (b.client transport service) first).2
    simp only [Session.run_cons, List.map_cons, List.zipWith_cons_cons, hnext]
    exact ⟨hlast, congrArg₂ _ helapsed helapseds, congrArg₂ _ hcalls hcallss,
      congrArg₂ _ hresult hresults⟩

end

/-! ### Credentials that can be read -/

/-- The credentials in a URL are **legible** if they can be decoded, so that requests carry them; or if there
are none. -/
def Credentials.Legible (u : Url) : Prop := u.withoutCredentials = u ∨ (ofUrl? u).isSome

/-- Legible credentials are not shown. -/
theorem Credentials.Legible.target_eq {u : Url} (h : Legible u) : target u = u.withoutCredentials := by
  rw [target]
  rcases h with hnone | hsome
  · rw [hnone, ite_self]
  · rw [if_pos hsome]

/-- Legible credentials do not show in the detail of a failure to send. -/
private theorem sendingDetail_eq_of_legible {u u' : Url} (h : Credentials.Legible u)
    (h' : Credentials.Legible u') (heq : u'.withoutCredentials = u.withoutCredentials) :
    sendingDetail u' = sendingDetail u := by
  have htarget : Credentials.target u' = Credentials.target u := by
    rw [h.target_eq, h'.target_eq, heq]
  exact congrArg (fun u : Url => "error sending request for url (" ++ u.text ++ ")") htarget

/-- The operation URLs have the credentials of the base URL. -/
theorem Blueprint.legible_url {o : Options} {b : Blueprint} (h : o.blueprint = .ok b)
    (hlegible : Credentials.Legible b.base) (operation : Operation) :
    Credentials.Legible (b.url operation) := by
  obtain ⟨-, -, -, -, hcreate, hget⟩ := Options.eq_of_blueprint_eq_ok h
  have hurl (path : String) : Credentials.Legible (Address.operationUrl b.base path) := by
    refine hlegible.imp_left fun hnone => ?_
    have hextended := congrArg (Address.operationUrl · path) hnone
    exact hextended
  cases operation with
  | create =>
    rw [url, hcreate]
    exact hurl _
  | get =>
    rw [url, hget]
    exact hurl _

/-- Clients with legible credentials show the same. -/
theorem Blueprint.showing_eq_of_legible {o o' : Options} {b b' : Blueprint} (h : o.blueprint = .ok b)
    (h' : o'.blueprint = .ok b') (hlegible : Credentials.Legible b.base)
    (hlegible' : Credentials.Legible b'.base) (hsame : b.SameButCredentials b') :
    b'.showing = b.showing := by
  funext step result
  cases step with
  | call call =>
    have hdetail := sendingDetail_eq_of_legible (legible_url h hlegible call.operation)
      (legible_url h' hlegible' call.operation) (hsame.url call.operation)
    rw [showing, showing, hdetail]
  | sleep _ => rfl
  | cancel => rfl

/-- **Credentials influence nothing but the authorization**, as long as they can be decoded. Let two clients be
made from acceptable options that differ in nothing but the credentials of their base URLs, and let both take
the same steps, whatever the service does. They end alike. Step by step they take the same time, make the same
requests but for their authorization and their ids, and come to the same results, but for the URL in the text
of a fault that befell a request as a whole. If the credentials of both are legible, the results are the
same. -/
theorem run_of_sameButCredentials {o o' : Options} {b b' : Blueprint} (h : o.blueprint = .ok b)
    (h' : o'.blueprint = .ok b') (hoptions : { o with address := o'.address } = o')
    (hbase : b'.base.withoutCredentials = b.base.withoutCredentials)
    (transport transport' : Transport) (hagent : transport'.userAgent = transport.userAgent)
    (htimeout : transport'.timeout = transport.timeout) (service : Service) (steps : List Step) :
    let ran := (Session.start b.world).run (b.client transport service) steps
    let ran' := (Session.start b'.world).run (b'.client transport' service) steps
    ran'.2 = ran.2 ∧ ran'.1.map Report.elapsed = ran.1.map Report.elapsed ∧
      ran'.1.map (·.calls.map Request.anonymous) = ran.1.map (·.calls.map Request.anonymous) ∧
      ran'.1.map Report.result = List.zipWith b'.showing steps (ran.1.map Report.result) ∧
      (Credentials.Legible b.base → Credentials.Legible b'.base →
        ran'.1.map Report.result = ran.1.map Report.result) := by
  intro ran ran'
  have hsame := Options.sameButCredentials h h' hoptions hbase
  have hworld : b'.world = b.world := by rw [Blueprint.world, Blueprint.world, hsame.quota]
  have hran : ran' = (Session.start b.world).run (b'.client transport' service) steps :=
    congrArg (fun world => (Session.start world).run (b'.client transport' service) steps) hworld
  obtain ⟨hsession, helapsed, hcalls, hresults⟩ :=
    run_of_blueprint_sameButCredentials hsame hagent htimeout service (Session.start b.world) steps
  -- what the first client shows of its own URL it shows anyway
  have hself : b.SameButCredentials b := ⟨rfl, rfl, fun _ => rfl⟩
  obtain ⟨-, -, -, hshown⟩ := run_of_blueprint_sameButCredentials hself (Eq.refl transport.userAgent)
    (Eq.refl transport.timeout) service (Session.start b.world) steps
  rw [hran]
  refine ⟨hsession, helapsed, hcalls, hresults, fun hlegible hlegible' => ?_⟩
  rw [hresults, Blueprint.showing_eq_of_legible h h' hlegible hlegible' hsame]
  exact hshown.symm

/-! ### A service on this host -/

/-- Options that allow two attempts. -/
def Options.forAddress (address : String) : Options :=
  { Options.default with address, policy := ⟨.ofMillis 50, 2⟩ }

/-- A URL of a service on this host. -/
def Url.loopback (username : String) (password : Option String) (path : Path) : Url :=
  ⟨.http, username, password, .ipv4 0x7F000001, some 8080, path, none, none⟩

/-- What options that allow two attempts amount to for a service on this host. -/
def Blueprint.loopback (username : String) (password : Option String) : Blueprint where
  base := .loopback username password .root
  quota := ⟨.ofSecs 1, 100, by decide, by decide⟩
  policy := ⟨.ofMillis 50, 2⟩
  requestTimeout := .ofSecs 30
  create := .loopback username password ["kfctl", "apps", "v1alpha1", "create"]
  get := .loopback username password ["kfctl", "apps", "v1alpha1", "get"]

/-- A creation and a reading whose requests are dropped, without credentials and with some that are legible:
only the second client's requests have an authorization, and both clients fail with the same texts. -/
theorem run_of_sameButCredentials_legible :
    let b := Blueprint.loopback "" none
    let b' := Blueprint.loopback "us%65r" (some "p%40ss")
    let transport (id : String) : Transport := ⟨"agent", .ofSecs 30, fun _ => id⟩
    let call (operation : Operation) : Step := .call (.uncancelled operation (.plain "d" "new"))
    let ran (b : Blueprint) (id : String) := (Session.start b.world).run
      (b.client (transport id) (.ofList .dropped [])) [call .create, call .get]
    let authorizations (b : Blueprint) (id : String) :=
      (ran b id).1.map fun report => report.calls.map Request.authorization
    (Options.forAddress "127.0.0.1:8080").blueprint = .ok b ∧
      (Options.forAddress "us%65r:p%40ss@127.0.0.1:8080").blueprint = .ok b' ∧
      b'.base.withoutCredentials = b.base.withoutCredentials ∧
      Credentials.Legible b.base ∧ Credentials.Legible b'.base ∧
      (ran b' "2").2 = (ran b "1").2 ∧
      (ran b' "2").1.map Report.elapsed = (ran b "1").1.map Report.elapsed ∧
      (ran b' "2").1.map (·.calls.map Request.anonymous) =
        (ran b "1").1.map (·.calls.map Request.anonymous) ∧
      authorizations b "1" = [[none, none], [none]] ∧
      authorizations b' "2" = [[some "Basic dXNlcjpwQHNz", some "Basic dXNlcjpwQHNz"],
        [some "Basic dXNlcjpwQHNz"]] ∧
      (ran b' "2").1.map Report.result = (ran b "1").1.map Report.result ∧
      (ran b "1").1.map Report.result = [
        .called (.error (.exhausted 2 (.transport (.request
          "error sending request for url (http://127.0.0.1:8080/kfctl/apps/v1alpha1/create)")))),
        .called (.error (.transport (.request
          "error sending request for url (http://127.0.0.1:8080/kfctl/apps/v1alpha1/get)")))] := by
  intro b b' transport call ran authorizations
  have h : (Options.forAddress "127.0.0.1:8080").blueprint = .ok b := by rfl
  have h' : (Options.forAddress "us%65r:p%40ss@127.0.0.1:8080").blueprint = .ok b' := by rfl
  have hbase : b'.base.withoutCredentials = b.base.withoutCredentials := rfl
  have hlegible : Credentials.Legible b.base := .inl rfl
  have hlegible' : Credentials.Legible b'.base := by
    subst b'
    exact .inr rfl
  obtain ⟨hsession, helapsed, hcalls, -, hresults⟩ := run_of_sameButCredentials h h' rfl hbase
    (transport "1") (transport "2") rfl rfl (.ofList .dropped []) [call .create, call .get]
  refine ⟨h, h', hbase, hlegible, hlegible', hsession, helapsed, hcalls, ?_, ?_,
    hresults hlegible hlegible', ?_⟩
  all_goals
    subst authorizations ran call transport b b'
    rfl

/-- **What cannot be decoded is shown.** Of two clients that differ in nothing but the user name, one of them
not the encoding of a text, one shows it in the text of an error. -/
theorem step_shows_illegible :
    let o := Options.forAddress "127.0.0.1:8080"
    let o' := Options.forAddress "%FF@127.0.0.1:8080"
    let b := Blueprint.loopback "" none
    let b' := Blueprint.loopback "%FF" none
    let result (b : Blueprint) := ((Session.start b.world).step
      (b.client ⟨"agent", .ofSecs 30, fun _ => "id"⟩ (.ofList .dropped []))
      (.call (.uncancelled .get (.plain "d" "new")))).1.result
    o.blueprint = .ok b ∧ o'.blueprint = .ok b' ∧ { o with address := o'.address } = o' ∧
      b'.base.withoutCredentials = b.base.withoutCredentials ∧
      result b = .called (.error (.transport (.request
        "error sending request for url (http://127.0.0.1:8080/kfctl/apps/v1alpha1/get)"))) ∧
      result b' = .called (.error (.transport (.request
        "error sending request for url (http://%FF@127.0.0.1:8080/kfctl/apps/v1alpha1/get)"))) ∧
      result b' ≠ result b := by
  intro o o' b b' result
  have h : (Options.forAddress "127.0.0.1:8080").blueprint = .ok b := by rfl
  have h' : (Options.forAddress "%FF@127.0.0.1:8080").blueprint = .ok b' := by rfl
  have hresult : result b = .called (.error (.transport (.request
      "error sending request for url (http://127.0.0.1:8080/kfctl/apps/v1alpha1/get)"))) := by
    subst result b
    rfl
  have hresult' : result b' = .called (.error (.transport (.request
      "error sending request for url (http://%FF@127.0.0.1:8080/kfctl/apps/v1alpha1/get)"))) := by
    subst result b'
    rfl
  refine ⟨h, h', rfl, rfl, hresult, hresult', ?_⟩
  rw [hresult, hresult']
  simp

end Deployer
