import Deployer.Options
import Deployer.Proofs.Address.Normalization
import Deployer.Proofs.Url.Parse

/-!
# Which options make a client

Six things are demanded of options, and what looks at them is spread over the policy, the options, the
address and the quota. Together they look at one demand after another: a client is made if each is met,
and otherwise the options are refused for the first that is not (`construct_accepts_exactly`).

Behind the demands nothing can fail. The base URL of an address has a host, whatever URLs there may be
without one, and a URL with a host can carry the path of an operation (`Url.parse_hosted`).
-/

namespace Deployer

/-! ### Base URLs among all URLs -/

/-- A text that spells a URL with a host spells no other URL. -/
theorem Url.parse_hosted {cs : List Char} {url : Url} (h : Url.parse cs = .ok url) :
    Url.Reference.parse cs = .ok (.hosted url) := by
  obtain ⟨name, rest, scheme, authority, hcut, hscheme, hauthority, rfl⟩ := Url.parse_eq_ok_iff.mp h
  simp only [Url.Reference.parse, hcut, hscheme, Url.parseAfter_eq, hauthority]
  rfl

/-! ### Demands -/

/-- What is demanded of options. -/
inductive Demand where
  | attempts
  | timeout
  | paths
  | address
  | burst
  | refill

namespace Demand

variable {o : Options} {d : Demand}

/-- The demands in the order in which they are looked at. -/
def all : List Demand := [.attempts, .timeout, .paths, .address, .burst, .refill]

private theorem mem_all (d : Demand) : d ∈ all := by
  cases d <;> simp [all]

/-- Options meet a demand. -/
def Met (o : Options) : Demand → Prop
  | attempts => 1 ≤ o.policy.maxAttempts
  | timeout => 0 < o.requestTimeout
  | paths => o.createPath ≠ "" ∧ o.getPath ≠ ""
  | address => ∃ base, Address.normalize o.address = .ok base
  | burst => 0 < o.burst
  | refill => 0 < o.refill

/-- The error that reports that options do not meet a demand. -/
def error? (o : Options) : Demand → Option Error
  | attempts => if o.policy.maxAttempts = 0 then some (.config .noAttempts) else none
  | timeout => if o.requestTimeout = 0 then some (.config .noTimeout) else none
  | paths => if o.createPath = "" ∨ o.getPath = "" then some (.config .emptyPath) else none
  | address =>
    match Address.normalize o.address with
    | .ok _ => none
    | .error fault => some (.address fault)
  | burst => if o.burst = 0 then some (.config .noBurst) else none
  | refill => if o.refill = 0 then some (.config .noRefill) else none

/-- It is reported exactly if they do not. -/
theorem error?_eq_none_iff : d.error? o = none ↔ d.Met o := by
  cases d with
  | attempts => simp [error?, Met, Nat.pos_iff_ne_zero, Nat.succ_le_iff]
  | timeout => simp [error?, Met, Nat.pos_iff_ne_zero]
  | paths => simp [error?, Met]
  | address =>
    rw [error?, Met]
    cases Address.normalize o.address <;> simp
  | burst => simp [error?, Met, Nat.pos_iff_ne_zero]
  | refill => simp [error?, Met, Nat.pos_iff_ne_zero]

theorem findSome?_eq_none_iff : all.findSome? (·.error? o) = none ↔ ∀ d : Demand, d.Met o := by
  rw [List.findSome?_eq_none_iff]
  exact ⟨fun h d => error?_eq_none_iff.mp (h d (mem_all d)), fun h d _ => error?_eq_none_iff.mpr (h d)⟩

/-- The first error is that of the first demand that is not met. -/
theorem findSome?_eq_some_iff {e : Error} : all.findSome? (·.error? o) = some e ↔
    ∃ met d rest, all = met ++ d :: rest ∧ (∀ d' ∈ met, d'.Met o) ∧ d.error? o = some e := by
  simp only [List.findSome?_eq_some_iff, error?_eq_none_iff, and_comm]

end Demand

namespace Options

variable {κ σ : Type} {o : Options}

/-- `validate` looks at the first three demands. -/
private theorem validate_cases (o : Options) :
    (∃ fault, [Demand.attempts, .timeout, .paths].findSome? (·.error? o) = some (.config fault) ∧
      o.validate = .error fault) ∨
    [Demand.attempts, .timeout, .paths].findSome? (·.error? o) = none ∧ o.validate = .ok () := by
  have hempty : (o.createPath.isEmpty || o.getPath.isEmpty) = true ↔
      o.createPath = "" ∨ o.getPath = "" := by simp
  rw [validate, Policy.validate]
  by_cases hattempts : o.policy.maxAttempts = 0
  · exact .inl ⟨.noAttempts, by simp [Demand.error?, hattempts], by rw [if_pos hattempts]; rfl⟩
  by_cases htimeout : o.requestTimeout = 0
  · exact .inl ⟨.noTimeout, by simp [Demand.error?, hattempts, htimeout],
      by rw [if_neg hattempts, if_pos htimeout]; rfl⟩
  rw [if_neg hattempts, if_neg htimeout]
  by_cases hpaths : o.createPath = "" ∨ o.getPath = ""
  · exact .inl ⟨.emptyPath, by simp [Demand.error?, hattempts, htimeout, hpaths],
      by rw [if_pos (hempty.mpr hpaths)]; rfl⟩
  · exact .inr ⟨by simp [Demand.error?, hattempts, htimeout, hpaths],
      by rw [if_neg (mt hempty.mp hpaths)]; rfl⟩

/-- The quota of options looks at the last two. -/
private theorem ofOptions_cases (o : Options) :
    (∃ fault, [Demand.burst, .refill].findSome? (·.error? o) = some (.config fault) ∧
      Quota.ofOptions o.refill o.burst = .error fault) ∨
    [Demand.burst, .refill].findSome? (·.error? o) = none ∧
      ∃ quota, Quota.ofOptions o.refill o.burst = .ok quota := by
  by_cases hburst : o.burst = 0
  · exact .inl ⟨.noBurst, by simp [Demand.error?, hburst], by simp [Quota.ofOptions, hburst]⟩
  by_cases hrefill : o.refill = 0
  · exact .inl ⟨.noRefill, by simp [Demand.error?, hburst, hrefill],
      by simp [Quota.ofOptions, Nat.pos_of_ne_zero hburst, hrefill]⟩
  · exact .inr ⟨by simp [Demand.error?, hburst, hrefill], _, by
      rw [Quota.ofOptions, dif_pos (Nat.pos_of_ne_zero hburst), dif_pos (Nat.pos_of_ne_zero hrefill)]⟩

/-- Options amount to something unless a demand is not met. -/
theorem blueprint_cases (o : Options) :
    (∃ e, Demand.all.findSome? (·.error? o) = some e ∧ o.blueprint = .error e) ∨
    Demand.all.findSome? (·.error? o) = none ∧
      ∃ b, o.blueprint = .ok b ∧ Address.normalize o.address = .ok b.base := by
  have hall : Demand.all = [.attempts, .timeout, .paths] ++ ([.address] ++ [.burst, .refill]) := rfl
  rw [hall, List.findSome?_append, List.findSome?_append, blueprint]
  rcases o.validate_cases with ⟨fault, hfault, hvalidate⟩ | ⟨hnone, hvalidate⟩
  · rw [hfault, hvalidate]
    exact .inl ⟨_, rfl, rfl⟩
  rw [hnone, hvalidate]
  cases hbase : Address.normalize o.address with
  | error fault =>
    rw [List.findSome?_singleton, Demand.error?, hbase]
    exact .inl ⟨_, rfl, rfl⟩
  | ok base =>
    rw [List.findSome?_singleton, Demand.error?, hbase]
    rcases o.ofOptions_cases with ⟨fault, hfault, hquota⟩ | ⟨hnone, quota, hquota⟩
    · rw [hfault, hquota]
      exact .inl ⟨_, rfl, rfl⟩
    · rw [hnone, hquota]
      exact .inr ⟨rfl, _, rfl, rfl⟩

theorem construct_of_error {e : Error} (h : o.blueprint = .error e) (scene : Scene σ) :
    (o.construct scene : Ran κ σ _) = ⟨.error e, scene, []⟩ := by
  simp [construct, h]

theorem construct_of_ok {b : Blueprint} (h : o.blueprint = .ok b) (scene : Scene σ) :
    (o.construct scene : Ran κ σ _) =
      ⟨.ok b, scene, [.logged (.targeting b.base.text) none]⟩ := by
  simp [construct, h]

/-- The base URL of options, among URLs of any scheme, carries both operation paths. -/
private theorem exists_operationUrl? {b : Blueprint} (h : o.blueprint = .ok b)
    (hbase : Address.normalize o.address = .ok b.base) :
    ∃ full base, Address.withScheme o.address (Text.trimChars o.address.toList) = .ok full ∧
      Url.Reference.parse full = .ok base ∧
      Address.operationUrl? base o.createPath = .ok (.hosted b.create) ∧
      Address.operationUrl? base o.getPath = .ok (.hosted b.get) := by
  obtain ⟨full, hfull, hroot⟩ := Address.exists_root?_of_normalize hbase
  obtain ⟨-, -, -, -, hcreate, hget⟩ := eq_of_blueprint_eq_ok h
  refine ⟨full, _, hfull, Url.parse_hosted (Address.root?_eq_some_iff.mp hroot).1, ?_, ?_⟩
  · rw [hcreate, Address.operationUrl?]
  · rw [hget, Address.operationUrl?]

/-- **Construction accepts exactly the valid options.** Options make a client if and only if each demand
is met; otherwise the error is that of the first demand that is not, and nothing is logged. If a client
is made, its base URL is that of the address, which is named by the one event that is logged; and a
base URL of that text, among URLs of any scheme, carries both operation paths. -/
theorem construct_accepts_exactly (o : Options) (scene : Scene σ) :
    ((∃ b, (o.construct scene : Ran κ σ _).value = .ok b) ↔ ∀ d : Demand, d.Met o) ∧
    (∀ e, (o.construct scene : Ran κ σ _).value = .error e ↔
      ∃ met d rest, Demand.all = met ++ d :: rest ∧ (∀ d' ∈ met, d'.Met o) ∧
        d.error? o = some e) ∧
    (∀ e, (o.construct scene : Ran κ σ _).value = .error e →
      (o.construct scene : Ran κ σ _).trace = []) ∧
    ∀ b, (o.construct scene : Ran κ σ _).value = .ok b →
      Address.normalize o.address = .ok b.base ∧
      (o.construct scene : Ran κ σ _).trace = [.logged (.targeting b.base.text) none] ∧
      ∃ full base, Address.withScheme o.address (Text.trimChars o.address.toList) = .ok full ∧
        Url.Reference.parse full = .ok base ∧
        Address.operationUrl? base o.createPath = .ok (.hosted b.create) ∧
        Address.operationUrl? base o.getPath = .ok (.hosted b.get) := by
  rw [← Demand.findSome?_eq_none_iff]
  simp only [← Demand.findSome?_eq_some_iff]
  rcases o.blueprint_cases with ⟨e, hfirst, herror⟩ | ⟨hnone, b, hok, hbase⟩
  · rw [construct_of_error herror, hfirst]
    refine ⟨⟨fun ⟨b, hb⟩ => (nomatch hb), (nomatch ·)⟩, fun e' => ⟨?_, ?_⟩, fun _ _ => rfl,
      fun _ => (nomatch ·)⟩
    · exact fun he => congrArg some (Except.error.inj he)
    · exact fun he => congrArg Except.error (Option.some.inj he)
  · rw [construct_of_ok hok, hnone]
    refine ⟨⟨fun _ => rfl, fun _ => ⟨b, rfl⟩⟩, fun e => ⟨(nomatch ·), (nomatch ·)⟩,
      fun _ => (nomatch ·), fun b' hb => ?_⟩
    cases hb
    exact ⟨hbase, rfl, exists_operationUrl? hok hbase⟩

end Options

end Deployer
