import Deployer.Proofs.Result
import Deployer.Proofs.Text.Cutting
import Deployer.Url.Ipv6

/-!
# Written addresses are read again

The digits of a number are read as that number (`Ipv4.digits?_toDigits`). So an IPv4 address is read from
its four decimal parts (`Ipv4.parse?_write`), and an IPv6 address from its hexadecimal pieces
(`Ipv6.parse?_write`). There a run of zero pieces may be left out; it is found again, since no two colons
follow each other in what stands before it (`Ipv6.cutWord_writePieces`), and since the pieces that are
written tell how many are missing (`Ipv6.exists_longestRun`).
-/

namespace Deployer.Url.Ipv4

variable {base n : Nat} {c : Char} {cs : List Char}

/-! ### Digits -/

private theorem digit?_digitChar (hbase : base ≤ 16) (h : n < base) :
    digit? base (Nat.digitChar n) = some n := by
  have hall : ∀ base ≤ 16, ∀ n < base, digit? base (Nat.digitChar n) = some n := by decide
  exact hall base hbase n h

theorem digits?_concat (cs : List Char) (c : Char) :
    digits? base (cs ++ [c]) =
      (digits? base cs).bind fun value => (digit? base c).map (value * base + ·) := by
  rw [digits?, List.foldlM_append, ← digits?]
  cases digits? base cs with
  | none => rfl
  | some value => simp

/-- **The digits of a number are read as that number.** -/
theorem digits?_toDigits (hone : 1 < base) (hbase : base ≤ 16) (n : Nat) :
    digits? base (Nat.toDigits base n) = some n := by
  induction n using Nat.strongRecOn with
  | ind n ih =>
    rw [Nat.toDigits_eq_if hone]
    split
    next hlt =>
      rw [← List.nil_append [n.digitChar], digits?_concat, digit?_digitChar hbase hlt]
      simp [digits?]
    next hle =>
      have hpos : 0 < n := by omega
      have hdiv : n / base * base + n % base = n := Nat.div_add_mod' n base
      rw [digits?_concat, ih _ (Nat.div_lt_self hpos hone),
        digit?_digitChar hbase (Nat.mod_lt n (by omega)), Option.bind_some, Option.map_some, hdiv]

private theorem exists_of_mem_toDigits (hone : 1 < base) (h : c ∈ Nat.toDigits base n) :
    ∃ d < base, c = Nat.digitChar d := by
  induction n using Nat.strongRecOn with
  | ind n ih =>
    rw [Nat.toDigits_eq_if hone] at h
    split at h
    next hlt => exact ⟨n, hlt, List.mem_singleton.mp h⟩
    next hle =>
      rcases List.mem_append.mp h with h | h
      · exact ih _ (Nat.div_lt_self (by omega) hone) h
      · exact ⟨n % base, Nat.mod_lt n (by omega), List.mem_singleton.mp h⟩

theorem isDigit_of_mem_toDigits (h : c ∈ Nat.toDigits 10 n) : c.isDigit = true :=
  Nat.isDigit_of_mem_toDigits (by decide) (by decide) h

/-! ### Four parts -/

private theorem part?_toDigits : ∀ n < 256, part? (Nat.toDigits 10 n) = some n := by decide +kernel

private theorem octets_lt (address : UInt32) : ∀ n ∈ octets address, n < 256 := by
  simp only [octets, List.forall_mem_cons]
  exact ⟨Nat.mod_lt _ (by decide), Nat.mod_lt _ (by decide), Nat.mod_lt _ (by decide),
    Nat.mod_lt _ (by decide), fun _ h => nomatch h⟩

/-- A byte is written with digits. -/
theorem isDigit_of_mem_octet {address : UInt32} {part : List Char}
    (hpart : part ∈ (octets address).map (Nat.toDigits 10)) (hc : c ∈ part) : c.isDigit = true := by
  obtain ⟨n, -, rfl⟩ := List.mem_map.mp hpart
  exact isDigit_of_mem_toDigits hc

theorem isDigit_of_mem_write {address : UInt32} (h : c ∈ write address) :
    c = '.' ∨ c.isDigit = true := by
  rcases Text.of_mem_joined h with h | ⟨part, hpart, hc⟩
  · exact .inl (List.mem_singleton.mp h)
  · exact .inr (isDigit_of_mem_octet hpart hc)

theorem pieces_write (address : UInt32) :
    Text.pieces (· == '.') (write address) = (octets address).map (Nat.toDigits 10) := by
  refine Text.pieces_joined rfl (List.cons_ne_nil _ _) fun part hpart c hc => ?_
  have hdigit := isDigit_of_mem_octet hpart hc
  exact beq_false_of_ne fun heq => absurd (heq ▸ hdigit) (by decide)

private theorem partsOf_write (address : UInt32) :
    partsOf (write address) = (octets address).map (Nat.toDigits 10) := by
  have hlast : ((octets address).map (Nat.toDigits 10)).getLast? =
      some (Nat.toDigits 10 (address.toNat % 256)) := rfl
  unfold partsOf
  dsimp only
  rw [pieces_write, hlast]
  split
  next heq => exact absurd (Option.some.inj heq) Nat.toDigits_ne_nil
  next => rfl

theorem endsInNumber_write (address : UInt32) : endsInNumber (write address) = true := by
  have hlast : (partsOf (write address)).getLast? =
      some (Nat.toDigits 10 (address.toNat % 256)) := by rw [partsOf_write]; rfl
  have hdigits : (Nat.toDigits 10 (address.toNat % 256)).all Char.isDigit = true :=
    List.all_eq_true.mpr fun c => isDigit_of_mem_toDigits
  have hne : (Nat.toDigits 10 (address.toNat % 256)).isEmpty = false := by simp
  rw [endsInNumber, hlast]
  simp only [hdigits, hne, Bool.not_false, Bool.and_self, Bool.true_or]

/-- The address that four bytes make up. -/
private theorem combine?_octets (address : UInt32) :
    combine? 0 (octets address) = some address.toNat := by
  have hbound := address.toNat_lt
  have hlt (n : Nat) : n % 256 < 256 := Nat.mod_lt _ (by decide)
  have hlast : Nat.pow 256 (4 - (0 + 1 + 1 + 1)) = 256 := rfl
  have hsecond : Nat.pow 256 (3 - (0 + 1)) = 65536 := rfl
  have hfirst : Nat.pow 256 (3 - 0) = 16777216 := rfl
  simp only [octets, combine?, hlast, hsecond, hfirst, if_pos (hlt _), Option.map_some,
    Option.some.injEq]
  omega

/-- **A written IPv4 address is read again.** -/
theorem parse?_write (address : UInt32) : parse? (write address) = some address := by
  have hparts : ((octets address).map (Nat.toDigits 10)).mapM part? = some (octets address) :=
    mapM_map_eq_some fun n hn => part?_toDigits n (octets_lt address n hn)
  have hlength : ¬ 4 < ((octets address).map (Nat.toDigits 10)).length := by simp [octets]
  unfold parse?
  dsimp only
  rw [partsOf_write, if_neg hlength, hparts]
  dsimp only
  rw [combine?_octets, Option.map_some, Nat.toUInt32, UInt32.ofNat_toNat]

end Deployer.Url.Ipv4

namespace Deployer.Url.Ipv6

open Ipv4 (digits?_toDigits exists_of_mem_toDigits)

variable {n : Nat} {c : Char} {cs after : List Char} {p : UInt16} {pieces ps : List UInt16}

/-! ### Pieces -/

private theorem isAlphanum_of_mem_toDigits (h : c ∈ Nat.toDigits 16 n) : c.isAlphanum = true := by
  obtain ⟨d, hd, rfl⟩ := exists_of_mem_toDigits (by decide) h
  have hall : ∀ d < 16, (Nat.digitChar d).isAlphanum = true := by decide
  exact hall d hd

private theorem piece?_toDigits (p : UInt16) : piece? (Nat.toDigits 16 p.toNat) = some p := by
  have hlength : (Nat.toDigits 16 p.toNat).length ≤ 4 :=
    (Nat.length_toDigits_le_iff (by decide) (by decide)).mpr p.toNat_lt
  have hshort : ¬ ((Nat.toDigits 16 p.toNat).isEmpty || decide (4 < (Nat.toDigits 16 p.toNat).length)) =
      true := by simpa using hlength
  rw [piece?, if_neg hshort, digits?_toDigits (by decide) (by decide), Option.map_some, Nat.toUInt16,
    UInt16.ofNat_toNat]

private theorem groups?_map (tail : Bool) (ps : List UInt16) :
    groups? tail (ps.map fun p => Nat.toDigits 16 p.toNat) = some ps := by
  induction ps with
  | nil => rfl
  | cons p ps ih =>
    cases ps with
    | nil =>
      have hdot : (Nat.toDigits 16 p.toNat).contains '.' = false := by
        refine Bool.eq_false_iff.mpr fun h => ?_
        exact absurd (isAlphanum_of_mem_toDigits (List.contains_iff_mem.mp h)) (by decide)
      rw [List.map_cons, List.map_nil, groups?, hdot, Bool.and_false, if_neg Bool.false_ne_true,
        piece?_toDigits, Option.map_some]
    | cons q ps =>
      rw [List.map_cons] at ih ⊢
      rw [List.map_cons, groups?, piece?_toDigits, ih]
      · rfl
      · exact List.cons_ne_nil _ _

theorem writePieces_cons_cons (p q : UInt16) (ps : List UInt16) : writePieces (p :: q :: ps) =
    Nat.toDigits 16 p.toNat ++ ':' :: writePieces (q :: ps) := by
  rw [writePieces, List.map_cons, List.map_cons, Text.joined, List.append_assoc]
  rfl

/-- What is written for a piece begins with a digit. -/
theorem exists_writePieces_eq_cons (p : UInt16) (ps : List UInt16) :
    ∃ d rest, writePieces (p :: ps) = d :: rest ∧ d ≠ ':' := by
  obtain ⟨d, rest, hdigits⟩ := List.exists_cons_of_ne_nil (Nat.toDigits_ne_nil (n := p.toNat) (b := 16))
  have hne : d ≠ ':' := by
    rintro rfl
    exact absurd (isAlphanum_of_mem_toDigits (hdigits ▸ List.mem_cons_self)) (by decide)
  cases ps with
  | nil => exact ⟨d, rest, hdigits, hne⟩
  | cons q ps => exact ⟨d, _, by rw [writePieces_cons_cons, hdigits]; rfl, hne⟩

/-- Pieces between colons are read again. -/
private theorem pieces?_writePieces (tail : Bool) (ps : List UInt16) :
    pieces? tail (writePieces ps) = some ps := by
  cases ps with
  | nil => rfl
  | cons p ps =>
    obtain ⟨d, rest, heq, -⟩ := exists_writePieces_eq_cons p ps
    have hempty : ¬ (writePieces (p :: ps)).isEmpty = true := by rw [heq]; exact Bool.false_ne_true
    have hcut : Text.pieces (· == ':') (writePieces (p :: ps)) =
        (p :: ps).map fun p => Nat.toDigits 16 p.toNat := by
      refine Text.pieces_joined rfl (List.cons_ne_nil _ _) fun part hpart c hc => ?_
      obtain ⟨q, -, rfl⟩ := List.mem_map.mp hpart
      exact beq_false_of_ne fun heq => absurd (heq ▸ isAlphanum_of_mem_toDigits hc) (by decide)
    rw [pieces?, if_neg hempty, hcut, groups?_map]

/-! ### The double colon -/

/-- No two colons follow each other in what is written for pieces. -/
theorem cutWord_writePieces (ps : List UInt16) (cs : List Char) :
    Text.cutWord [':', ':'] (writePieces ps ++ cs) =
      (Text.cutWord [':', ':'] cs).map fun cut => (writePieces ps ++ cut.1, cut.2) := by
  have hcolon (p : UInt16) : ':' ∉ Nat.toDigits 16 p.toNat := fun h =>
    absurd (isAlphanum_of_mem_toDigits h) (by decide)
  induction ps with
  | nil => exact Option.map_id'.symm
  | cons p ps ih =>
    cases ps with
    | nil => exact Text.cutWord_append (hcolon p)
    | cons q ps =>
      obtain ⟨d, rest, heq, hne⟩ := exists_writePieces_eq_cons q ps
      have hword : ¬ [':', ':'].isPrefixOf (':' :: (writePieces (q :: ps) ++ cs)) = true := by
        rw [heq, List.isPrefixOf_iff_prefix, List.cons_prefix_cons, List.cons_append,
          List.cons_prefix_cons]
        exact fun h => hne h.2.1.symm
      rw [writePieces_cons_cons, List.append_assoc, Text.cutWord_append (hcolon p), List.cons_append,
        Text.cutWord, if_neg hword, ih, Option.map_map, Option.map_map]
      congr 1
      funext cut
      simp

/-- The run of zero pieces that is left out, and what stands around it. -/
theorem exists_longestRun (start : Nat) (ps : List UInt16) :
    ∃ k, (longestRun start ps).1 = start + k ∧
      ps = ps.take k ++ List.replicate (longestRun start ps).2 0 ++
        ps.drop (k + (longestRun start ps).2) := by
  induction ps generalizing start with
  | nil => exact ⟨0, rfl, rfl⟩
  | cons p ps ih =>
    unfold longestRun
    dsimp only
    -- the run in front is the longest, or the longest lies behind the first piece
    split
    · refine ⟨0, rfl, ?_⟩
      have hzeros : (p :: ps).takeWhile (· == 0) = List.replicate (zeros (p :: ps)) 0 :=
        List.eq_replicate_of_mem fun q hq => beq_iff_eq.mp (List.mem_takeWhile_imp (p := (· == 0)) hq)
      have hdrop : (p :: ps).drop (zeros (p :: ps)) = (p :: ps).dropWhile (· == 0) := by
        rw [zeros, List.dropWhile_eq_drop_findIdx_not, List.takeWhile_eq_take_findIdx_not]
        simp
      rw [List.take_zero, List.nil_append, Nat.zero_add, ← hzeros, hdrop,
        List.takeWhile_append_dropWhile]
    · obtain ⟨k, hstart, hps⟩ := ih (start + 1)
      refine ⟨k + 1, by omega, ?_⟩
      rw [List.take_succ_cons, Nat.add_right_comm k 1, List.drop_succ_cons, List.cons_append,
        List.cons_append, ← hps]

/-! ### Addresses -/

private theorem of_mem_writePieces (h : c ∈ writePieces ps) :
    c = ':' ∨ ∃ d < 16, c = Nat.digitChar d := by
  rcases Text.of_mem_joined h with h | ⟨part, hpart, hc⟩
  · exact .inl (List.mem_singleton.mp h)
  · obtain ⟨p, -, rfl⟩ := List.mem_map.mp hpart
    exact .inr (exists_of_mem_toDigits (by decide) hc)

/-- An address is written with colons and hexadecimal digits. -/
theorem of_mem_write (h : c ∈ write pieces) : c = ':' ∨ ∃ d < 16, c = Nat.digitChar d := by
  unfold write at h
  dsimp only at h
  split at h
  · exact of_mem_writePieces h
  · rcases List.mem_append.mp h with h | h
    · rcases List.mem_append.mp h with h | h
      · exact of_mem_writePieces h
      · exact .inl (by simpa using h)
    · exact of_mem_writePieces h

/-- **A written IPv6 address is read again.** -/
theorem parse?_write (h : pieces.length = 8) : parse? (write pieces) = some pieces := by
  unfold write
  obtain ⟨k, hstart, hpieces⟩ := exists_longestRun 0 pieces
  generalize longestRun 0 pieces = run at hstart hpieces
  obtain ⟨start, length⟩ := run
  dsimp only at hstart hpieces ⊢
  obtain rfl : k = start := by omega
  split
  next hshort =>
    -- no run of zeros is left out, so there is no double colon
    have hcut : Text.cutWord [':', ':'] (writePieces pieces) = none := by
      rw [← List.append_nil (writePieces pieces), cutWord_writePieces]
      rfl
    rw [parse?, hcut]
    dsimp only
    rw [pieces?_writePieces]
    exact if_pos h
  next hlong =>
    have hcut : Text.cutWord [':', ':'] (writePieces (pieces.take k) ++ [':', ':'] ++
        writePieces (pieces.drop (k + length))) =
          some (writePieces (pieces.take k), writePieces (pieces.drop (k + length))) := by
      rw [List.append_assoc, cutWord_writePieces]
      simp [Text.cutWord]
    -- what is missing of eight pieces is the run that was left out
    have hlength := congrArg List.length hpieces
    rw [List.length_append, List.length_append, List.length_replicate] at hlength
    have hcount : (pieces.take k).length + (pieces.drop (k + length)).length ≤ 7 := by omega
    have hmissing : 8 - ((pieces.take k).length + (pieces.drop (k + length)).length) = length := by
      omega
    rw [parse?, hcut]
    dsimp only
    rw [pieces?_writePieces, pieces?_writePieces]
    simp only [Option.bind_eq_bind, Option.bind_some, if_pos hcount, hmissing]
    rw [← hpieces]

/-- An address has eight pieces. -/
theorem length_of_parse? (h : parse? cs = some pieces) : pieces.length = 8 := by
  unfold parse? at h
  split at h
  · simp only [Option.bind_eq_bind, Option.bind_eq_some_iff] at h
    obtain ⟨all, -, h⟩ := h
    obtain ⟨hlength, heq⟩ := Option.ite_none_right_eq_some.mp h
    exact Option.some.inj heq ▸ hlength
  · simp only [Option.bind_eq_bind, Option.bind_eq_some_iff] at h
    obtain ⟨left, -, right, -, h⟩ := h
    obtain ⟨hcount, heq⟩ := Option.ite_none_right_eq_some.mp h
    obtain rfl := Option.some.inj heq
    rw [List.length_append, List.length_append, List.length_replicate]
    omega

end Deployer.Url.Ipv6
