import EmbeddedFilters.Json.Printer
import EmbeddedFilters.Json.Reader
import Mathlib.Tactic.Common

/-!
# Written strings are read back

A string is written character by character, and every character becomes one piece for the reader
(`readPieces_escapeChar`). The pieces are joined to the same characters again, so what stands
between the quotes is read back as the string (`readString_quote`), whatever characters it has.
-/

namespace EmbeddedFilters.Json

/-- The two digits that a control character is written with denote it. -/
lemma unitValue_hexDigit {n : Nat} (h : n < 32) :
    unitValue '0' '0' (hexDigit (n / 16)) (hexDigit (n % 16)) = some n := by
  have hall : ∀ k < 32, unitValue '0' '0' (hexDigit (k / 16)) (hexDigit (k % 16)) = some k := by
    decide
  exact hall n h

/-- A plain character is read as itself. -/
lemma readPieces_char {c : Char} (hquote : c ≠ '"') (hslash : c ≠ '\\') (hlow : ¬ c.toNat < 32)
    (rest : List Symbol) :
    readPieces (some c :: rest) = (readPieces rest).map fun p => (.char c :: p.1, p.2) := by
  rw [readPieces]
  · rw [if_neg hlow, Option.map_eq_bind]
    rfl
  all_goals simp_all

/-- A letter after a backslash is a piece, unless it starts an escaped unit. -/
lemma readPieces_escaped {c e : Char} (he : escapedChar e = some c) (hu : e ≠ 'u')
    (rest : List Symbol) :
    readPieces (some '\\' :: some e :: rest) =
      (readPieces rest).map fun p => (.char c :: p.1, p.2) := by
  rw [readPieces]
  · rw [he, Option.map_eq_bind]
    rfl
  all_goals simp_all

/-- An escape of four digits is read as the unit that they denote. -/
lemma readPieces_unit {a b c d : Char} {n : Nat} (h : unitValue a b c d = some n)
    (rest : List Symbol) :
    readPieces (some '\\' :: some 'u' :: some a :: some b :: some c :: some d :: rest) =
      (readPieces rest).map fun p => (.unit n :: p.1, p.2) := by
  rw [readPieces, h, Option.map_eq_bind]
  rfl

/-- A written character is one piece, which is joined to the character again. -/
lemma readPieces_escapeChar (c : Char) (rest : List Symbol) :
    ∃ piece, readPieces ((escapeChar c).map some ++ rest) =
        (readPieces rest).map (fun p => (piece :: p.1, p.2)) ∧
      ∀ pieces, joinPieces (piece :: pieces) = (joinPieces pieces).map (c :: ·) := by
  have letter {e : Char} (he : escapedChar e = some c) (hu : e ≠ 'u') :
      ∃ piece, readPieces (some '\\' :: some e :: rest) =
          (readPieces rest).map (fun p => (piece :: p.1, p.2)) ∧
        ∀ pieces, joinPieces (piece :: pieces) = (joinPieces pieces).map (c :: ·) :=
    ⟨.char c, readPieces_escaped he hu rest, fun _ => rfl⟩
  unfold escapeChar
  split
  · subst_vars; exact letter (by decide) (by decide)
  split
  · subst_vars; exact letter (by decide) (by decide)
  split
  · subst_vars; exact letter (by decide) (by decide)
  split
  · subst_vars; exact letter (by decide) (by decide)
  split
  · subst_vars; exact letter (by decide) (by decide)
  split
  · subst_vars; exact letter (by decide) (by decide)
  split
  · subst_vars; exact letter (by decide) (by decide)
  split
  · rename_i hlow
    refine ⟨.unit c.toNat, readPieces_unit (unitValue_hexDigit hlow) rest, fun pieces => ?_⟩
    have hlead : isLeading c.toNat = false := by simp [isLeading]; omega
    have htrail : isTrailing c.toNat = false := by simp [isTrailing]; omega
    rw [joinPieces.eq_def]
    simp [hlead, htrail, Char.ofNat_toNat]
  · rename_i hquote hslash _ _ _ _ _ hlow
    exact ⟨.char c, readPieces_char hquote hslash hlow rest, fun _ => rfl⟩

/-- Written characters up to the closing quote are read back. -/
lemma readPieces_flatMap (cs : List Char) (rest : List Symbol) :
    ∃ pieces, readPieces ((cs.flatMap escapeChar).map some ++ some '"' :: rest) =
        some (pieces, rest) ∧ joinPieces pieces = some cs := by
  induction cs with
  | nil => exact ⟨[], by simp [readPieces], rfl⟩
  | cons c cs ih =>
    obtain ⟨pieces, hread, hjoin⟩ := ih
    obtain ⟨piece, hpiece, hone⟩ :=
      readPieces_escapeChar c ((cs.flatMap escapeChar).map some ++ some '"' :: rest)
    refine ⟨piece :: pieces, ?_, by rw [hone, hjoin]; rfl⟩
    rw [List.flatMap_cons, List.map_append, List.append_assoc, hpiece, hread]
    rfl

/-- A string between quotes is read back. -/
lemma readString_quote (s : String) (rest : List Symbol) :
    readString ((s.toList.flatMap escapeChar ++ ['"']).map some ++ rest) = some (some s, rest) := by
  obtain ⟨pieces, hread, hjoin⟩ := readPieces_flatMap s.toList rest
  have hread : readPieces ((s.toList.flatMap escapeChar ++ ['"']).map some ++ rest) =
      some (pieces, rest) := by
    rw [← hread]
    simp
  rw [readString, hread]
  simp [hjoin, String.ofList_toList]

end EmbeddedFilters.Json
