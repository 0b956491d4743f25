import Deployer.Proofs.Address.Normalization
import Deployer.Proofs.Url.Parse
import Deployer.Proofs.Url.Path

/-!
# Operations under a base URL

The URL of an operation differs from the base URL in its path only, and that path keeps the base path,
with one exception (`operationUrl_keeps_base`). An operation path may hold tabs and line ends, and a
piece that is two dots but for those is taken for a piece with a name when dots are skipped, and for a
step up when the URL is changed. At the front of an operation path such a piece removes the last
segment of the base path (`operationUrl_climbs`).
-/

namespace Deployer.Address

open Url

/-- **The URL of an operation** has everything of the base URL before the path, and neither a query nor
a fragment. Its path is the base path less one slash at its end, and then nothing or a slash and more;
unless the operation path climbs, or the base path is `//`, which is taken for `/`. In any case nothing
but the last segment of the base path can be missing. -/
theorem operationUrl_keeps_base {address : String} {base : Url} (h : normalize address = .ok base)
    (operation : String) :
    ∃ url, operationUrl? (.hosted base) operation = .ok (.hosted url) ∧
      (url.scheme = base.scheme ∧ url.username = base.username ∧ url.password = base.password ∧
        url.host = base.host ∧ url.port = base.port) ∧
      url.query = none ∧ url.fragment = none ∧
      (base.path = Path.root ∨ base.path ≠ ["", ""] ∧ ¬ Path.Climbs operation.toList →
        Path.Continues base.path.stem url.path.write) ∧
      Path.Continues base.path.closed.up.write url.path.write := by
  obtain ⟨full, -, hroot⟩ := exists_root?_of_normalize h
  obtain ⟨hparse, -, hquery, hfragment⟩ := root?_eq_some_iff.mp hroot
  obtain ⟨_, rest, _, _, -, -, -, hbase⟩ := parse_eq_ok_iff.mp hparse
  have hpath : base.path = Path.parse (pathOf rest) := congrArg Url.path hbase
  have hne : base.path ≠ [] := hpath ▸ Path.parse_ne_nil (pathOf rest)
  have hclean : Path.Clean base.path := hpath ▸ Path.clean_parse (pathOf rest)
  exact ⟨operationUrl base operation, rfl, ⟨rfl, rfl, rfl, rfl, rfl⟩, hquery, hfragment,
    Path.continues_stem_write_extend hne hclean, Path.continues_up_write_extend _ _⟩

/-- A step up behind a piece that names a segment removes that segment and nothing of the base path;
percent signs and question marks are part of a segment. -/
theorem operationUrl_keeps_base_behind :
    ∃ base, normalize "[::1]:9000/api/" = .ok base ∧ base.path.stem = "/api".toList ∧
      base.path ≠ ["", ""] ∧ ¬ Path.Climbs "/%2e%2e/..\t/a?b".toList ∧
      (operationUrl base "/%2e%2e/..\t/a?b").path.text = "/api//a%3Fb" ∧
      Path.Continues base.path.stem (operationUrl base "/%2e%2e/..\t/a?b").path.write := by
  have hbase : normalize "[::1]:9000/api/" =
      .ok ⟨.http, "", none, .ipv6 [0, 0, 0, 0, 0, 0, 0, 1], some 9000, ["api", ""], none, none⟩ := by
    rfl
  obtain ⟨url, hurl, -, -, -, hkeeps, -⟩ := operationUrl_keeps_base hbase "/%2e%2e/..\t/a?b"
  cases hurl
  have hdouble : ["api", ""] ≠ ["", ""] := by decide
  have hclimbs : ¬ Path.Climbs "/%2e%2e/..\t/a?b".toList := by decide
  exact ⟨_, hbase, by rfl, hdouble, hclimbs, by rfl, hkeeps (.inr ⟨hdouble, hclimbs⟩)⟩

/-- The first piece is not skipped, since it is not `..` yet; without its tab it is a step up. -/
theorem operationUrl_climbs :
    ∃ base, normalize "[::1]:9000/api" = .ok base ∧ base.path.text = "/api" ∧
      (operationUrl base "..\t/admin").path.text = "/admin" ∧
      ¬ Path.Continues base.path.stem (operationUrl base "..\t/admin").path.write :=
  ⟨⟨.http, "", none, .ipv6 [0, 0, 0, 0, 0, 0, 0, 1], some 9000, ["api"], none, none⟩, by rfl, by rfl,
    by rfl, by decide⟩

end Deployer.Address
