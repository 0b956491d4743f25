import Deployer.Proofs.Settings.Merge

/-!
# Settings that are written and read again

The text of settings has all their fields, so nothing is taken from the defaults when it is read
(`parse_text`): whatever the strings and numbers are, the settings come back as they were.

Of settings only the options are kept when a client is made, with times in nanoseconds instead of whole
milliseconds and seconds. No two times become the same, so the options still determine every field that
does not concern the log (`toOptions_eq_iff`).
-/

namespace Deployer

open Json

/-! ### Times -/

namespace Duration

private theorem ofMillis_injective : Function.Injective ofMillis :=
  fun _ _ h => Nat.eq_of_mul_eq_mul_right (by decide) h

private theorem ofSecs_injective : Function.Injective ofSecs :=
  fun _ _ h => Nat.eq_of_mul_eq_mul_right (by decide) h

end Duration

namespace Settings

/-! ### What is written -/

private theorem integral_natValue {n : Nat} (h : n ≤ 0xFFFFFFFFFFFFFFFF) : (natValue n).Integral :=
  .int ⟨Int.le_trans (by decide) (Int.natCast_nonneg n), Int.ofNat_le.mpr h⟩

private theorem integral_members (s : Settings) : (Value.object s.members).Integral := by
  have hword64 (n : UInt64) : (natValue n.toNat).Integral :=
    integral_natValue (Nat.le_of_lt_succ n.toNat_lt)
  have hword32 (n : UInt32) : (natValue n.toNat).Integral :=
    integral_natValue (Nat.le_trans (Nat.le_of_lt n.toNat_lt) (by decide))
  refine .object ?_
  simp only [members, List.forall_mem_cons]
  refine ⟨.string _, .string _, .bool _, .object ?_, .object ?_, hword64 _, .object ?_,
    fun _ h => nomatch h⟩
  · simp only [RateLimitSettings.members, List.forall_mem_cons]
    exact ⟨hword64 _, hword32 _, fun _ h => nomatch h⟩
  · simp only [RetrySettings.members, List.forall_mem_cons]
    exact ⟨hword64 _, hword32 _, fun _ h => nomatch h⟩
  · simp only [PathSettings.members, List.forall_mem_cons]
    exact ⟨.string _, .string _, fun _ h => nomatch h⟩

/-- With all keys written, nothing is taken from the defaults. -/
private theorem merged_members (s : Settings) :
    s.merged (keysOf s.members) (keysOf s.rateLimit.members) (keysOf s.retry.members)
      (keysOf s.paths.members) = s := by
  simp [merged, RateLimitSettings.merged, RetrySettings.merged, PathSettings.merged, keysOf, members,
    RateLimitSettings.members, RetrySettings.members, PathSettings.members]

/-- **The text of settings is read as these settings.** -/
theorem parse_text (s : Settings) : parse (Text.bytes s.text) = .ok s := by
  have hes : Carries (s.membersWith s.rateLimit.members s.retry.members s.paths.members) s.members := by
    rw [membersWith_members]
    exact .refl s.members
  have htakes := takes_merged 125 (.refl _) (.refl _) (.refl _) hes
  rw [merged_members] at htakes
  have hparse := parseAll_of_takes htakes blanks_nil (integral_members s).spells_compact blanks_nil
  rw [List.nil_append, List.append_nil] at hparse
  rw [parse, text, hparse]
  rfl

/-! ### What is kept -/

/-- The options of two settings are the same only if all is the same but what concerns the log. -/
theorem toOptions_eq_iff {s t : Settings} :
    s.toOptions = t.toOptions ↔ { s with level := t.level, jsonLogs := t.jsonLogs } = t := by
  refine ⟨fun h => ?_, fun h => ?_⟩
  · obtain ⟨address, level, jsonLogs, ⟨refill, burst⟩, ⟨interval, attempts⟩, timeout, create, get⟩ := s
    obtain ⟨address', level', jsonLogs', ⟨refill', burst'⟩, ⟨interval', attempts'⟩, timeout',
      create', get'⟩ := t
    simp only [toOptions, Options.mk.injEq, Policy.mk.injEq] at h
    obtain ⟨haddress, hrefill, hburst, ⟨hinterval, hattempts⟩, htimeout, hcreate, hget⟩ := h
    rw [haddress, UInt64.toNat_inj.mp (Duration.ofMillis_injective hrefill),
      UInt32.toNat_inj.mp hburst, UInt64.toNat_inj.mp (Duration.ofMillis_injective hinterval),
      UInt32.toNat_inj.mp hattempts, UInt64.toNat_inj.mp (Duration.ofSecs_injective htimeout),
      hcreate, hget]
  · rw [← h]
    rfl

/-- **Settings survive being written and read again**, and so do their options. The options of two
settings are the same exactly if the settings are the same but for the level and the form of the log. -/
theorem read_back (s t : Settings) :
    parse (Text.bytes s.text) = .ok s ∧
      (parse (Text.bytes s.text)).map toOptions = .ok s.toOptions ∧
      (s.toOptions = t.toOptions ↔ { s with level := t.level, jsonLogs := t.jsonLogs } = t) := by
  refine ⟨parse_text s, ?_, toOptions_eq_iff⟩
  rw [parse_text]
  rfl

end Settings

end Deployer
