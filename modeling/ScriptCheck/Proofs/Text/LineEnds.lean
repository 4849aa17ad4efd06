import ScriptCheck.Proofs.Text.Decoding
import ScriptCheck.Proofs.Text.Placement
import ScriptCheck.Text.Lines

/-!
# Lines of octets

A file may end its lines in three ways. `LineCut` cuts octets into their lines, `octetLines` finds
the cut. To make text of octets and then one of all line ends comes to the same as to make text of
every line apart: `LineCut.lines_eq`. An ill-formed part never reaches over a line end, since a line
end starts with the first octet of a character.
-/

namespace ScriptCheck.Text

open String (utf8EncodeChar)

section Octets

/-- What ends a line in front of other octets. A carriage return takes a line feed along. -/
inductive IsLineEnd : List UInt8 → List UInt8 → Prop where
  | lineFeed (rest : List UInt8) : IsLineEnd [10] rest
  | both (rest : List UInt8) : IsLineEnd [13, 10] rest
  | carriageReturn {rest : List UInt8} (noFeed : rest.head? ≠ some 10) : IsLineEnd [13] rest

/-- The octets of a line hold nothing that could end it. -/
structure IsLine (octets : List UInt8) : Prop where
  noFeed : 10 ∉ octets
  noReturn : 13 ∉ octets

/-- Octets are cut at their line ends. -/
inductive LineCut : List UInt8 → List (List UInt8) → Prop where
  | last {line : List UInt8} (isLine : IsLine line) : LineCut line [line]
  | cons {line ending rest : List UInt8} {lines : List (List UInt8)} (isLine : IsLine line)
      (isEnd : IsLineEnd ending rest) (behind : LineCut rest lines) :
      LineCut (line ++ (ending ++ rest)) (line :: lines)

/-- The lines of octets. -/
def octetLines : List UInt8 → List (List UInt8)
  | [] => [[]]
  | 13 :: 10 :: rest => [] :: octetLines rest
  | octet :: rest =>
      if octet = 10 ∨ octet = 13 then [] :: octetLines rest
      else (octetLines rest).modifyHead (octet :: ·)

theorem isLine_nil : IsLine [] := ⟨List.not_mem_nil, List.not_mem_nil⟩

theorem isLine_cons {octet : UInt8} {line : List UInt8} :
    IsLine (octet :: line) ↔ (octet ≠ 10 ∧ octet ≠ 13) ∧ IsLine line := by
  constructor
  · rintro ⟨noFeed, noReturn⟩
    rw [List.mem_cons, not_or] at noFeed noReturn
    exact ⟨⟨Ne.symm noFeed.1, Ne.symm noReturn.1⟩, noFeed.2, noReturn.2⟩
  · rintro ⟨⟨noFeed, noReturn⟩, isLine⟩
    exact ⟨by simp [isLine.noFeed, Ne.symm noFeed], by simp [isLine.noReturn, Ne.symm noReturn]⟩

/-- An octet that ends no line joins the first one. -/
theorem LineCut.modifyHead {octet : UInt8} (ordinary : octet ≠ 10 ∧ octet ≠ 13)
    {octets : List UInt8} {lines : List (List UInt8)} (cut : LineCut octets lines) :
    LineCut (octet :: octets) (lines.modifyHead (octet :: ·)) := by
  cases cut with
  | last isLine => exact .last (isLine_cons.mpr ⟨ordinary, isLine⟩)
  | cons isLine isEnd behind => exact .cons (isLine_cons.mpr ⟨ordinary, isLine⟩) isEnd behind

/-- A line end in front opens a line. -/
theorem LineCut.ended {ending rest : List UInt8} {lines : List (List UInt8)}
    (isEnd : IsLineEnd ending rest) (behind : LineCut rest lines) :
    LineCut (ending ++ rest) ([] :: lines) :=
  .cons isLine_nil isEnd behind

/-- Octets can be cut. -/
theorem lineCut_octetLines (octets : List UInt8) : LineCut octets (octetLines octets) := by
  induction octets using octetLines.induct with
  | case1 => exact .last isLine_nil
  | case2 rest inductionHypothesis => exact .ended (.both rest) inductionHypothesis
  | case3 octet rest notBoth ends inductionHypothesis =>
      rw [octetLines.eq_3 octet rest notBoth, if_pos ends]
      rcases ends with rfl | rfl
      · exact .ended (.lineFeed rest) inductionHypothesis
      · refine .ended (.carriageReturn fun isFeed => ?_) inductionHypothesis
        obtain ⟨others, rfl⟩ := List.head?_eq_some_iff.mp isFeed
        exact notBoth others rfl rfl
  | case4 octet rest notBoth ordinary inductionHypothesis =>
      rw [octetLines.eq_3 octet rest notBoth, if_neg ordinary]
      exact inductionHypothesis.modifyHead (not_or.mp ordinary)

/-- A line joins the first one of what comes behind it. -/
theorem octetLines_append {line : List UInt8} (isLine : IsLine line) (rest : List UInt8) :
    octetLines (line ++ rest) = (octetLines rest).modifyHead (line ++ ·) := by
  induction line with
  | nil =>
      rw [List.nil_append]
      cases octetLines rest <;> rfl
  | cons octet line inductionHypothesis =>
      obtain ⟨ordinary, isLine⟩ := isLine_cons.mp isLine
      have notEnd : ¬ (octet = 10 ∨ octet = 13) := not_or.mpr ordinary
      have notBoth : ∀ others, octet = 13 → line ++ rest = 10 :: others → False :=
        fun _ isReturn _ => ordinary.2 isReturn
      rw [List.cons_append, octetLines.eq_3 octet (line ++ rest) notBoth, if_neg notEnd,
        inductionHypothesis isLine]
      cases octetLines rest <;> rfl

/-- A line end opens a line. -/
theorem octetLines_ended {ending rest : List UInt8} (isEnd : IsLineEnd ending rest) :
    octetLines (ending ++ rest) = [] :: octetLines rest := by
  cases isEnd with
  | lineFeed => rfl
  | both => rfl
  | carriageReturn noFeed =>
      have notBoth : ∀ others, (13 : UInt8) = 13 → rest = 10 :: others → False := by
        rintro others - rfl
        exact noFeed rfl
      rw [List.singleton_append, octetLines.eq_3 13 rest notBoth]
      rfl

/-- There is one way to cut octets. -/
theorem lineCut_iff {octets : List UInt8} {lines : List (List UInt8)} :
    LineCut octets lines ↔ octetLines octets = lines := by
  constructor
  · intro cut
    induction cut with
    | @last line isLine =>
        simpa [octetLines] using octetLines_append isLine []
    | cons isLine isEnd _ inductionHypothesis =>
        rw [octetLines_append isLine, octetLines_ended isEnd, inductionHypothesis]
        simp
  · rintro rfl
    exact lineCut_octetLines octets

end Octets

section Unify

/-- What is no carriage return stays. -/
theorem unifyLineEnds_append {line : List Char} (noReturn : '\r' ∉ line) (rest : List Char) :
    unifyLineEnds (line ++ rest) = line ++ unifyLineEnds rest := by
  induction line with
  | nil => rfl
  | cons character line inductionHypothesis =>
      rw [List.mem_cons, not_or] at noReturn
      have notBoth : ∀ others, character = '\r' → line ++ rest = '\n' :: others → False :=
        fun _ isReturn _ => noReturn.1 isReturn.symm
      rw [List.cons_append, unifyLineEnds.eq_3 character (line ++ rest) notBoth,
        if_neg (Ne.symm noReturn.1), inductionHypothesis noReturn.2]
      rfl

/-- A carriage return without a line feed behind it becomes one. -/
theorem unifyLineEnds_return {rest : List Char} (noFeed : rest.head? ≠ some '\n') :
    unifyLineEnds ('\r' :: rest) = '\n' :: unifyLineEnds rest := by
  have notBoth : ∀ others, '\r' = '\r' → rest = '\n' :: others → False := by
    rintro others - rfl
    exact noFeed rfl
  rw [unifyLineEnds.eq_3 '\r' rest notBoth, if_pos rfl]

/-- No carriage return is left. -/
theorem return_not_mem_unifyLineEnds (text : List Char) : '\r' ∉ unifyLineEnds text := by
  induction text using unifyLineEnds.induct with
  | case1 => exact List.not_mem_nil
  | case2 rest inductionHypothesis =>
      rw [unifyLineEnds, List.mem_cons, not_or]
      exact ⟨by decide, inductionHypothesis⟩
  | case3 character rest notBoth inductionHypothesis =>
      rw [unifyLineEnds.eq_3 character rest notBoth, List.mem_cons, not_or]
      refine ⟨?_, inductionHypothesis⟩
      split
      next => decide
      next ordinary => exact Ne.symm ordinary

end Unify

section Decoding

open Utf8

/-- A character that a line of octets must not hold is not in its text. -/
theorem not_mem_decode {octets : List UInt8} {octet : UInt8} {character : Char}
    (single : utf8EncodeChar character = [octet]) (noMark : character ≠ replacement)
    (missing : octet ∉ octets) : character ∉ decode octets := by
  intro mem
  have within := encodeChar_infix_of_mem mem noMark
  rw [single] at within
  exact missing (within.subset List.mem_cons_self)

/-- The text of a line ends nowhere. -/
theorem IsLine.decode {line : List UInt8} (isLine : IsLine line) :
    '\n' ∉ decode line ∧ '\r' ∉ decode line :=
  ⟨not_mem_decode (by decide) (by decide) isLine.noFeed,
    not_mem_decode (by decide) (by decide) isLine.noReturn⟩

/-- A text starts with a line feed only if its octets do. -/
theorem head?_decode {octets : List UInt8} (noFeed : octets.head? ≠ some 10) :
    (decode octets).head? ≠ some '\n' := by
  have decoded : Decoded octets (decode octets) := decoded_iff.mpr rfl
  generalize decode octets = text at decoded
  cases decoded with
  | nil => simp
  | @character character rest text behind =>
      rintro ⟨⟩
      have single : utf8EncodeChar '\n' = [10] := by decide
      exact noFeed (by rw [single]; rfl)
  | illFormed => simp [replacement]

/-- A line end becomes a line feed, whatever stands in front of it and behind. -/
theorem unifyLineEnds_decode_append {line ending rest : List UInt8} (isLine : IsLine line)
    (isEnd : IsLineEnd ending rest) :
    unifyLineEnds (decode (line ++ (ending ++ rest))) =
      decode line ++ '\n' :: unifyLineEnds (decode rest) := by
  have feed : utf8EncodeChar '\n' = [10] := by decide
  have back : utf8EncodeChar '\r' = [13] := by decide
  cases isEnd with
  | lineFeed =>
      rw [← feed, decode_encodeChar, unifyLineEnds_append isLine.decode.2]
      rfl
  | both =>
      have behind : decode (10 :: rest) = '\n' :: decode rest := by
        have read := decode_encodeChar [] '\n' rest
        rwa [feed] at read
      have front : [13, 10] ++ rest = utf8EncodeChar '\r' ++ (10 :: rest) := by
        rw [back]
        rfl
      rw [front, decode_encodeChar, behind, unifyLineEnds_append isLine.decode.2]
      rfl
  | carriageReturn noFeed =>
      rw [← back, decode_encodeChar, unifyLineEnds_append isLine.decode.2,
        unifyLineEnds_return (head?_decode noFeed)]

/-- The lines of the text are the texts of the lines. -/
theorem LineCut.lines_eq {octets : List UInt8} {pieces : List (List UInt8)}
    (cut : LineCut octets pieces) :
    lines (unifyLineEnds (decode octets)) = pieces.map decode := by
  induction cut with
  | @last line isLine =>
      have whole := unifyLineEnds_append isLine.decode.2 []
      have single := lines_append_line isLine.decode.1 []
      rw [List.append_nil] at whole single
      rw [whole, unifyLineEnds, List.append_nil, single]
      simp
  | cons isLine isEnd _ inductionHypothesis =>
      rw [unifyLineEnds_decode_append isLine isEnd, lines_append_newline isLine.decode.1,
        inductionHypothesis, List.map_cons]

end Decoding

end ScriptCheck.Text
