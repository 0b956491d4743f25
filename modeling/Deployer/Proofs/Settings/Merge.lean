import Deployer.Proofs.Json.Filling
import Deployer.Proofs.Json.Printing
import Deployer.Settings

/-!
# Settings that are written in part

Every field of settings may be left out, and of the inner records too. Whatever is written, in whatever
order and among whatever else, is a merge with the defaults: a field that is written has its value, and
every other one its default (`parse_merges`). The default of an inner field comes from one place if its
object is written and from another if it is not; both are the same.
-/

namespace Deployer

open Json

/-! ### Numbers -/

private theorem takes_readWord64 (depth : Nat) (n : UInt64) :
    Takes readWord64 depth (natValue n.toNat) n := by
  have h : Takes readWord64 depth (natValue n.toNat) n.toNat.toUInt64 :=
    Takes.map (takes_readUnsigned depth n.toNat_lt) Nat.toUInt64
  rwa [Nat.toUInt64, UInt64.ofNat_toNat] at h

private theorem takes_readWord32 (depth : Nat) (n : UInt32) :
    Takes readWord32 depth (natValue n.toNat) n := by
  have h : Takes readWord32 depth (natValue n.toNat) n.toNat.toUInt32 :=
    Takes.map (takes_readUnsigned depth n.toNat_lt) Nat.toUInt32
  rwa [Nat.toUInt32, UInt32.ofNat_toNat] at h

/-! ### The quota -/

namespace RateLimitSettings

variable (s : RateLimitSettings)

/-- The quota of which only the fields of some keys are written. -/
def merged (keys : List String) : RateLimitSettings where
  refillIntervalMs :=
    if "refill_interval_ms" ∈ keys then s.refillIntervalMs else default.refillIntervalMs
  burst := if "burst" ∈ keys then s.burst else default.burst

/-- The draft of the quota when some keys have been met. -/
def draft (met : String → Bool) : Draft :=
  ⟨written met "refill_interval_ms" s.refillIntervalMs, written met "burst" s.burst⟩

theorem collects (depth : Nat) : Collects record depth s.members s.draft where
  start := rfl
  congr h := by
    simp only [keysOf, members, List.map, List.forall_mem_cons] at h
    obtain ⟨hrefill, hburst, -⟩ := h
    rw [draft, written_congr hrefill, written_congr hburst, draft]
  fields := rfl
  field hmem met hmet := by
    simp only [members, List.mem_cons, List.not_mem_nil, or_false] at hmem
    rcases hmem with h | h <;> cases h
    · exact ⟨_, rfl, Field.of_takes (takes_readWord64 depth _) (written_eq_none hmet _) (by simp [draft])⟩
    · exact ⟨_, rfl, Field.of_takes (takes_readWord32 depth _) (written_eq_none hmet _) (by simp [draft])⟩

/-- A quota that is written in part is read as the quota merged with the default one. -/
theorem takes_merged (depth : Nat) {es : List (String × Value)} (hes : Carries s.members es) :
    Takes record.read (depth + 1) (.object es) (s.merged (keysOf es)) :=
  (s.collects depth).takes (by simp [keysOf, members]) hes
    (by simp only [record, draft, merged, getD_written])

end RateLimitSettings

/-! ### The policy -/

namespace RetrySettings

variable (s : RetrySettings)

/-- The policy of which only the fields of some keys are written. -/
def merged (keys : List String) : RetrySettings where
  intervalMs := if "interval_ms" ∈ keys then s.intervalMs else default.intervalMs
  maxAttempts := if "max_attempts" ∈ keys then s.maxAttempts else default.maxAttempts

/-- The draft of the policy when some keys have been met. -/
def draft (met : String → Bool) : Draft :=
  ⟨written met "interval_ms" s.intervalMs, written met "max_attempts" s.maxAttempts⟩

theorem collects (depth : Nat) : Collects record depth s.members s.draft where
  start := rfl
  congr h := by
    simp only [keysOf, members, List.map, List.forall_mem_cons] at h
    obtain ⟨hinterval, hattempts, -⟩ := h
    rw [draft, written_congr hinterval, written_congr hattempts, draft]
  fields := rfl
  field hmem met hmet := by
    simp only [members, List.mem_cons, List.not_mem_nil, or_false] at hmem
    rcases hmem with h | h <;> cases h
    · exact ⟨_, rfl, Field.of_takes (takes_readWord64 depth _) (written_eq_none hmet _) (by simp [draft])⟩
    · exact ⟨_, rfl, Field.of_takes (takes_readWord32 depth _) (written_eq_none hmet _) (by simp [draft])⟩

/-- A policy that is written in part is read as the policy merged with the default one. -/
theorem takes_merged (depth : Nat) {es : List (String × Value)} (hes : Carries s.members es) :
    Takes record.read (depth + 1) (.object es) (s.merged (keysOf es)) :=
  (s.collects depth).takes (by simp [keysOf, members]) hes
    (by simp only [record, draft, merged, getD_written])

end RetrySettings

/-! ### The paths -/

namespace PathSettings

variable (s : PathSettings)

/-- The paths of which only those of some keys are written. -/
def merged (keys : List String) : PathSettings where
  create := if "create" ∈ keys then s.create else default.create
  get := if "get" ∈ keys then s.get else default.get

/-- The draft of the paths when some keys have been met. -/
def draft (met : String → Bool) : Draft :=
  ⟨written met "create" s.create, written met "get" s.get⟩

theorem collects (depth : Nat) : Collects record depth s.members s.draft where
  start := rfl
  congr h := by
    simp only [keysOf, members, List.map, List.forall_mem_cons] at h
    obtain ⟨hcreate, hget, -⟩ := h
    rw [draft, written_congr hcreate, written_congr hget, draft]
  fields := rfl
  field hmem met hmet := by
    simp only [members, List.mem_cons, List.not_mem_nil, or_false] at hmem
    rcases hmem with h | h <;> cases h
    · exact ⟨_, rfl, Field.of_takes (takes_readText depth _) (written_eq_none hmet _) (by simp [draft])⟩
    · exact ⟨_, rfl, Field.of_takes (takes_readText depth _) (written_eq_none hmet _) (by simp [draft])⟩

/-- Paths that are written in part are read as the paths merged with the default ones. -/
theorem takes_merged (depth : Nat) {es : List (String × Value)} (hes : Carries s.members es) :
    Takes record.read (depth + 1) (.object es) (s.merged (keysOf es)) :=
  (s.collects depth).takes (by simp [keysOf, members]) hes
    (by simp only [record, draft, merged, getD_written])

end PathSettings

/-! ### The whole -/

theorem Level.takes_reader (depth : Nat) (level : Level) : Takes reader depth level.toValue level :=
  takes_readVariant depth (by cases level <;> decide)

namespace Settings

variable (s : Settings)

/-- The members of the settings' object, with what is written of the inner objects. -/
def membersWith (rateLimit retry paths : List (String × Value)) : List (String × Value) :=
  [("instance", .string s.address), ("log_level", s.level.toValue), ("json_logs", .bool s.jsonLogs),
    ("rate_limit", .object rateLimit), ("retry", .object retry),
    ("request_timeout_secs", natValue s.requestTimeoutSecs.toNat), ("paths", .object paths)]

/-- With all that there is to write of the inner objects, these are all members. -/
theorem membersWith_members :
    s.membersWith s.rateLimit.members s.retry.members s.paths.members = s.members :=
  rfl

/-- The settings of which only the fields of some keys are written, and of each inner object only those
of some others. -/
def merged (keys rateKeys retryKeys pathKeys : List String) : Settings where
  address := if "instance" ∈ keys then s.address else default.address
  level := if "log_level" ∈ keys then s.level else default.level
  jsonLogs := if "json_logs" ∈ keys then s.jsonLogs else default.jsonLogs
  rateLimit := if "rate_limit" ∈ keys then s.rateLimit.merged rateKeys else default.rateLimit
  retry := if "retry" ∈ keys then s.retry.merged retryKeys else default.retry
  requestTimeoutSecs :=
    if "request_timeout_secs" ∈ keys then s.requestTimeoutSecs else default.requestTimeoutSecs
  paths := if "paths" ∈ keys then s.paths.merged pathKeys else default.paths

/-- The draft of the settings when some keys have been met, and in the inner objects some others. -/
def draft (rateKeys retryKeys pathKeys : List String) (met : String → Bool) : Draft where
  address := written met "instance" s.address
  level := written met "log_level" s.level
  jsonLogs := written met "json_logs" s.jsonLogs
  rateLimit := written met "rate_limit" (s.rateLimit.merged rateKeys)
  retry := written met "retry" (s.retry.merged retryKeys)
  requestTimeoutSecs := written met "request_timeout_secs" s.requestTimeoutSecs
  paths := written met "paths" (s.paths.merged pathKeys)

variable {s} {rateLimit retry paths es : List (String × Value)}

theorem collects (depth : Nat) (hrate : Carries s.rateLimit.members rateLimit)
    (hretry : Carries s.retry.members retry) (hpaths : Carries s.paths.members paths) :
    Collects record (depth + 1) (s.membersWith rateLimit retry paths)
      (s.draft (keysOf rateLimit) (keysOf retry) (keysOf paths)) where
  start := rfl
  congr h := by
    simp only [keysOf, membersWith, List.map, List.forall_mem_cons] at h
    obtain ⟨haddress, hlevel, hjson, hrate, hretry, htimeout, hpaths, -⟩ := h
    rw [draft, written_congr haddress, written_congr hlevel, written_congr hjson,
      written_congr hrate, written_congr hretry, written_congr htimeout, written_congr hpaths, draft]
  fields := rfl
  field hmem met hmet := by
    simp only [membersWith, List.mem_cons, List.not_mem_nil, or_false] at hmem
    -- the inner objects are read with one bracket open, so one less may be opened within them
    rcases hmem with h | h | h | h | h | h | h <;> cases h
    · exact ⟨_, rfl, Field.of_takes (takes_readText _ _) (written_eq_none hmet _) (by simp [draft])⟩
    · exact ⟨_, rfl, Field.of_takes (Level.takes_reader _ _) (written_eq_none hmet _) (by simp [draft])⟩
    · exact ⟨_, rfl, Field.of_takes (takes_readBool _ _) (written_eq_none hmet _) (by simp [draft])⟩
    · exact ⟨_, rfl, Field.of_takes (s.rateLimit.takes_merged depth hrate) (written_eq_none hmet _)
        (by simp [draft])⟩
    · exact ⟨_, rfl, Field.of_takes (s.retry.takes_merged depth hretry) (written_eq_none hmet _)
        (by simp [draft])⟩
    · exact ⟨_, rfl, Field.of_takes (takes_readWord64 _ _) (written_eq_none hmet _) (by simp [draft])⟩
    · exact ⟨_, rfl, Field.of_takes (s.paths.takes_merged depth hpaths) (written_eq_none hmet _)
        (by simp [draft])⟩

/-- Settings that are written in part are read as the settings merged with the default ones. -/
theorem takes_merged (depth : Nat) (hrate : Carries s.rateLimit.members rateLimit)
    (hretry : Carries s.retry.members retry) (hpaths : Carries s.paths.members paths)
    (hes : Carries (s.membersWith rateLimit retry paths) es) :
    Takes record.read (depth + 2) (.object es)
      (s.merged (keysOf es) (keysOf rateLimit) (keysOf retry) (keysOf paths)) :=
  (collects depth hrate hretry hpaths).takes (by simp [keysOf, membersWith]) hes
    (by simp only [record, ofDraft, draft, merged, getD_written])

/-- **Settings are merged with the defaults.** Whatever is written of settings and of their inner objects,
in whatever order and among whatever else, is read, and what is not written has its default. -/
theorem parse_merges {bs t bs' : Bytes} (hrate : Carries s.rateLimit.members rateLimit)
    (hretry : Carries s.retry.members retry) (hpaths : Carries s.paths.members paths)
    (hes : Carries (s.membersWith rateLimit retry paths) es) (hbs : Blanks bs)
    (ht : Spells (.value (.object es)) t) (hbs' : Blanks bs') :
    parse (bs ++ (t ++ bs')) =
      .ok (s.merged (keysOf es) (keysOf rateLimit) (keysOf retry) (keysOf paths)) := by
  rw [parse, parseAll_of_takes (takes_merged 125 hrate hretry hpaths hes) hbs ht hbs']
  rfl

/-- A text with two of the fields in another order, one of them in part, behind a key that is not known. -/
theorem parse_merges_reordered :
    parse (Text.bytes (Value.object [("note", .array [.null]),
      ("retry", .object [("max_attempts", natValue 3)]),
      ("instance", .string "deployer:9000")]).indented ++ [byte '\n']) =
    .ok { default with address := "deployer:9000", retry := ⟨2000, 3⟩ } := by
  let s : Settings := ⟨"deployer:9000", .debug, true, ⟨5, 7⟩, ⟨9, 3⟩, 11, ⟨"create", "get"⟩⟩
  have hretry : Carries s.retry.members [("max_attempts", natValue 3)] :=
    ⟨[("max_attempts", natValue 3)], [], .cons _ (.refl _), by simp, .refl _⟩
  have hes : Carries (s.membersWith s.rateLimit.members [("max_attempts", natValue 3)] s.paths.members)
      [("note", .array [.null]), ("retry", .object [("max_attempts", natValue 3)]),
        ("instance", .string "deployer:9000")] := by
    refine ⟨[("instance", .string "deployer:9000"),
      ("retry", .object [("max_attempts", natValue 3)])], [("note", .array [.null])], ?_, ?_,
      List.reverse_perm [_, _, _]⟩
    · exact .cons_cons _ (.cons _ (.cons _ (.cons _ (.cons_cons _ (List.nil_sublist _)))))
    · simp [keysOf, membersWith]
  have hintegral : (Value.object [("note", .array [.null]),
      ("retry", .object [("max_attempts", natValue 3)]),
      ("instance", .string "deployer:9000")]).Integral := by
    refine .object (List.forall_mem_cons.mpr ⟨.array ?_, List.forall_mem_cons.mpr ⟨.object ?_,
      List.forall_mem_singleton.mpr (.string _)⟩⟩)
    · exact List.forall_mem_singleton.mpr .null
    · exact List.forall_mem_singleton.mpr (.int (by decide))
  have hmerged : s.merged ["note", "retry", "instance"] ["refill_interval_ms", "burst"] ["max_attempts"]
      ["create", "get"] = { default with address := "deployer:9000", retry := ⟨2000, 3⟩ } := by
    decide
  have hparse := parse_merges (.refl _) hretry (.refl _) hes blanks_nil hintegral.spells_indented
    (List.forall_mem_singleton.mpr (show isBlank (byte '\n') = true by decide))
  exact hparse.trans (congrArg Except.ok hmerged)

end Settings

end Deployer
