import Deployer.Proofs.Json.Printing
import Deployer.Proofs.Json.Reading
import Deployer.Reply
import Mathlib

/-!
# What a diagnostic keeps of a payload

A reply that is neither a deployment nor a service error is reported with its payload printed in full, one
item to a line. The text of the diagnostic is JSON again and is read as the payload (`parse_rendered`): the
payload was read under a bound on the brackets that may be open, and opens as many when it is printed. So
nothing of it is lost in the report, and different payloads are told apart by their diagnostics.

Numbers of a payload are integers here.
-/

namespace Deployer

open Json

variable {t t' : Bytes} {v v' : Value}

/-- **The text of a diagnostic is read as the payload** that it was made of. -/
theorem Diagnostic.parse_rendered (h : Value.parse t = .ok v) (hint : v.Integral) :
    Value.parse (Text.bytes (Diagnostic.of v).rendered) = .ok v :=
  (Value.readable_of_parse h).parse hint.spells_indented

/-- **A diagnostic loses nothing of the payload.** The text of the diagnostic is read as the payload, and
its kind is that of the payload. Two payloads are one if the texts of their diagnostics are. -/
theorem Diagnostic.keeps_payload (h : Value.parse t = .ok v) (h' : Value.parse t' = .ok v')
    (hint : v.Integral) (hint' : v'.Integral) :
    Value.parse (Text.bytes (Diagnostic.of v).rendered) = .ok v ∧ (Diagnostic.of v).kind = v.kind ∧
      ((Diagnostic.of v).rendered = (Diagnostic.of v').rendered ↔ v = v') := by
  have hread := parse_rendered h hint
  have hread' := parse_rendered h' hint'
  refine ⟨hread, rfl, fun htext => ?_, fun heq => by rw [heq]⟩
  rw [htext, hread'] at hread
  exact (Except.ok.inj hread).symm

/-- An object whose first member is written over and comes second, with a string of escapes, the two ends of
the integers and empty brackets; and an array. -/
theorem Diagnostic.keeps_payload_nested :
    let t := Text.bytes ("\x7b\"b\":null, \"a\":[\"\\u000a\\/\\u00e9\\u0007\",18446744073709551615]," ++
      "\"b\" :\x7b\"\":[],\"c\":\x7b\x7d,\"d\":-9223372036854775808\x7d\x7d")
    let t' := Text.bytes "[[[]],\x7b\x7d]"
    let v : Value := .object [("a", .array [.string "\n/é\x07", .number (.int maxInteger)]),
      ("b", .object [("", .array []), ("c", .object []), ("d", .number (.int minInteger))])]
    let v' : Value := .array [.array [.array []], .object []]
    Value.parse t = .ok v ∧ Value.parse t' = .ok v' ∧ v.Integral ∧ v'.Integral ∧
      (Diagnostic.of v).rendered =
        "\x7b\n  \"a\": [\n    \"\\n/é\\u0007\",\n    18446744073709551615\n  ],\n  \"b\": \x7b\n" ++
        "    \"\": [],\n    \"c\": \x7b\x7d,\n    \"d\": -9223372036854775808\n  \x7d\n\x7d" ∧
      Value.parse (Text.bytes (Diagnostic.of v).rendered) = .ok v ∧ (Diagnostic.of v).kind = v.kind ∧
      ((Diagnostic.of v).rendered = (Diagnostic.of v').rendered ↔ v = v') := by
  intro t t' v v'
  have ht : Value.parse t = .ok v := by
    subst t v
    cbv
  have ht' : Value.parse t' = .ok v' := by
    subst t' v'
    cbv
  have hempty : (Value.array []).Integral ∧ (Value.object []).Integral :=
    ⟨.array (List.forall_mem_nil _), .object (List.forall_mem_nil _)⟩
  have hint : v.Integral := by
    refine .object (List.forall_mem_cons.mpr ⟨.array ?_, List.forall_mem_singleton.mpr (.object ?_)⟩)
    · exact List.forall_mem_cons.mpr ⟨.string _, List.forall_mem_singleton.mpr (.int (by decide))⟩
    · exact List.forall_mem_cons.mpr ⟨hempty.1, List.forall_mem_cons.mpr
        ⟨hempty.2, List.forall_mem_singleton.mpr (.int (by decide))⟩⟩
  have hint' : v'.Integral := by
    refine .array (List.forall_mem_cons.mpr ⟨?_, List.forall_mem_singleton.mpr hempty.2⟩)
    exact .array (List.forall_mem_singleton.mpr hempty.1)
  refine ⟨ht, ht', hint, hint', ?_, Diagnostic.keeps_payload ht ht' hint hint'⟩
  subst v
  cbv

end Deployer
