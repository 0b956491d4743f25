import Deployer.Address
import Deployer.Proofs.Result

/-!
# What an address is read as

An address is refused for the first thing that is wrong with it. What it is read as does not depend on
that order: `toOption_normalize` says that the scheme is supplied, and that what comes of it must be the
root of a service, a URL with a host and with neither a query nor a fragment (`root?`).

Proofs about the URL of an address start from there. Where the words of a refusal matter, they are those
of the scheme (`normalize_eq_error_of_withScheme`) or of the URL (`normalize_eq_error_of_parse`).
-/

namespace Deployer.Address

open Url

variable {address : String} {url : Url} {full : List Char}

/-- The service root that a text with a scheme spells: a URL with a host and with neither a query nor a
fragment. -/
def root? (full : List Char) : Option Url :=
  (Url.parse full).toOption.filter fun url =>
    !url.host.text.isEmpty && url.query.isNone && url.fragment.isNone

theorem root?_eq_some_iff : root? full = some url ↔ Url.parse full = .ok url ∧
    url.host.text.isEmpty = false ∧ url.query = none ∧ url.fragment = none := by
  rw [root?, Option.filter_eq_some_iff, toOption_eq_some]
  simp only [Bool.and_eq_true, Bool.not_eq_true', Option.isNone_iff_eq_none, and_assoc]

/-- **What an address is read as**, but for the words of a refusal. -/
theorem toOption_normalize (address : String) :
    (normalize address).toOption =
      if Text.trimChars address.toList = [] then none
      else (withScheme address (Text.trimChars address.toList)).toOption.bind root? := by
  unfold normalize
  generalize Text.trimChars address.toList = trimmed
  by_cases hempty : trimmed = []
  · subst hempty
    rfl
  · have hfalse : trimmed.isEmpty = false := by simpa using hempty
    simp only [hfalse, if_neg hempty, bind, Except.bind]
    cases withScheme address trimmed with
    | error => rfl
    | ok full =>
      rw [toOption_ok, Option.bind_some, root?]
      dsimp only
      cases Url.parse full with
      | error => rfl
      | ok url =>
        rw [toOption_ok, Option.filter_some]
        dsimp only
        cases url.host.text.isEmpty <;> cases url.query <;> cases url.fragment <;> rfl

/-- A scheme that is refused is what an address is refused for. -/
theorem normalize_eq_error_of_withScheme {fault : AddressFault}
    (hne : Text.trimChars address.toList ≠ [])
    (h : withScheme address (Text.trimChars address.toList) = .error fault) :
    normalize address = .error fault := by
  have hempty : (Text.trimChars address.toList).isEmpty = false := by simpa using hne
  unfold normalize
  simp only [hempty, h]
  rfl

/-- A text that is no URL is what an address is refused for. -/
theorem normalize_eq_error_of_parse {fault : Fault} (hne : Text.trimChars address.toList ≠ [])
    (hfull : withScheme address (Text.trimChars address.toList) = .ok full)
    (h : Url.parse full = .error fault) : normalize address = .error (.url address fault) := by
  have hempty : (Text.trimChars address.toList).isEmpty = false := by simpa using hne
  unfold normalize
  simp only [hempty, hfull, bind, Except.bind, h]
  rfl

theorem exists_root?_of_normalize (h : normalize address = .ok url) :
    ∃ full, withScheme address (Text.trimChars address.toList) = .ok full ∧
      root? full = some url := by
  have hsome := toOption_eq_some.mpr h
  rw [toOption_normalize, Option.ite_none_left_eq_some, Option.bind_eq_some_iff] at hsome
  obtain ⟨-, full, hfull, hroot⟩ := hsome
  exact ⟨full, toOption_eq_some.mp hfull, hroot⟩

end Deployer.Address
