/-
  HNodeMgmt.Lib.Percent — percent-encoded paths.

  A byte is escaped as "%" and two hexadecimal digits.  Which bytes an encoder
  escapes is a parameter; a decoder reads every escape and refuses a percent
  sign without two digits behind it.

  Main results:
    * `percentDecode_encode` — what is encoded is decoded again.
    * `splitOn_percentEncode` — an encoder that leaves a separator alone
      encodes part by part.
    * `percentDecode_filter_iff` — a path whose empty parts were dropped is
      decoded to itself exactly when nothing was dropped or escaped.
-/
import Mathlib.Tactic.Common

namespace HNodeMgmt.Lib

/-! ## §1. One byte. -/

/-- The value of a hexadecimal digit, in either case. -/
def hexValue (c : UInt8) : Option UInt8 :=
  if 48 ≤ c ∧ c ≤ 57 then some (c - 48)
  else if 65 ≤ c ∧ c ≤ 70 then some (c - 55)
  else if 97 ≤ c ∧ c ≤ 102 then some (c - 87)
  else none

/-- A digit in upper case. -/
def hexUpper (n : UInt8) : UInt8 := if n < 10 then 48 + n else 55 + n

/-- A byte as it is written in a path. -/
def encodeByte (escaped : UInt8 → Bool) (b : UInt8) : List UInt8 :=
  if escaped b then [37, hexUpper (b >>> 4), hexUpper (b &&& 15)] else [b]

private theorem hex_digits (n : Fin 256) :
    hexValue (hexUpper (UInt8.ofFin n >>> 4)) = some (UInt8.ofFin n >>> 4) ∧
    hexValue (hexUpper (UInt8.ofFin n &&& 15)) = some (UInt8.ofFin n &&& 15) ∧
    (UInt8.ofFin n >>> 4) <<< 4 ||| (UInt8.ofFin n &&& 15) = UInt8.ofFin n := by
  revert n
  decide +kernel

/-- The two digits of a byte give it back. -/
theorem hexValue_digits (b : UInt8) :
    hexValue (hexUpper (b >>> 4)) = some (b >>> 4) ∧
    hexValue (hexUpper (b &&& 15)) = some (b &&& 15) ∧
    (b >>> 4) <<< 4 ||| (b &&& 15) = b := hex_digits b.toFin

/-! ## §2. Decoding. -/

/-- Every escape is read once. -/
def percentDecode : List UInt8 → Option (List UInt8)
  | [] => some []
  | c :: rest =>
    if c = 37 then
      match rest with
      | hi :: lo :: rest' =>
        (hexValue hi).bind fun h => (hexValue lo).bind fun l =>
          (percentDecode rest').map ((h <<< 4 ||| l) :: ·)
      | _ => none
    else (percentDecode rest).map (c :: ·)

/-- Any other byte stands for itself. -/
theorem percentDecode_plain {c : UInt8} (h : c ≠ 37) (rest : List UInt8) :
    percentDecode (c :: rest) = (percentDecode rest).map (c :: ·) := by
  rw [percentDecode.eq_def]
  show (if c = 37 then _ else _) = _
  rw [if_neg h]

/-- An escape is a percent sign and two digits. -/
theorem percentDecode_escape (hi lo : UInt8) (rest : List UInt8) :
    percentDecode (37 :: hi :: lo :: rest) =
      (hexValue hi).bind fun h => (hexValue lo).bind fun l =>
        (percentDecode rest).map ((h <<< 4 ||| l) :: ·) := by
  rw [percentDecode, if_pos rfl]

/-- The three ways decoding starts. -/
theorem percentDecode_cases {c : UInt8} {rest out : List UInt8}
    (h : percentDecode (c :: rest) = some out) :
    c ≠ 37 ∧ (∃ tail, percentDecode rest = some tail ∧ out = c :: tail) ∨
    c = 37 ∧ ∃ hi lo rest' b tail, rest = hi :: lo :: rest' ∧ percentDecode rest' = some tail ∧
      out = b :: tail ∧ ∀ more, percentDecode (37 :: hi :: lo :: more) =
        (percentDecode more).map (b :: ·) := by
  by_cases hc : c = 37
  · refine .inr ⟨hc, ?_⟩
    subst hc
    match rest with
    | [] => cases h
    | [_] => cases h
    | hi :: lo :: rest' =>
      rw [percentDecode_escape] at h
      obtain ⟨vh, hvh, h⟩ := Option.bind_eq_some_iff.mp h
      obtain ⟨vl, hvl, h⟩ := Option.bind_eq_some_iff.mp h
      obtain ⟨tail, htail, hout⟩ := Option.map_eq_some_iff.mp h
      refine ⟨hi, lo, rest', vh <<< 4 ||| vl, tail, rfl, htail, hout.symm, fun more => ?_⟩
      rw [percentDecode_escape, hvh, hvl]
      rfl
  · rw [percentDecode_plain hc] at h
    obtain ⟨tail, htail, hout⟩ := Option.map_eq_some_iff.mp h
    exact .inl ⟨hc, tail, htail, hout.symm⟩

/-- Decoding goes on behind what it has decoded. -/
theorem percentDecode_append :
    ∀ {s out : List UInt8} (more : List UInt8), percentDecode s = some out →
      percentDecode (s ++ more) = (percentDecode more).map (out ++ ·)
  | [], out, more, h => by
      obtain rfl : [] = out := Option.some.inj h
      simp
  | c :: rest, out, more, h => by
      rcases percentDecode_cases h with ⟨hc, tail, htail, rfl⟩ |
        ⟨rfl, hi, lo, rest', b, tail, rfl, htail, rfl, hesc⟩
      · rw [List.cons_append, percentDecode_plain hc, percentDecode_append more htail,
          Option.map_map]
        rfl
      · rw [List.cons_append, List.cons_append, List.cons_append, hesc,
          percentDecode_append more htail, Option.map_map]
        rfl

/-- **Decoding never makes text longer**, and shorter when there is an escape. -/
theorem percentDecode_length :
    ∀ {s out : List UInt8}, percentDecode s = some out →
      out.length ≤ s.length ∧ (out.length = s.length → 37 ∉ s)
  | [], out, h => by
      obtain rfl : [] = out := Option.some.inj h
      simp
  | c :: rest, out, h => by
      rcases percentDecode_cases h with ⟨hc, tail, htail, rfl⟩ |
        ⟨rfl, hi, lo, rest', b, tail, rfl, htail, rfl, -⟩
      · obtain ⟨hle, hsame⟩ := percentDecode_length htail
        refine ⟨by simpa using hle, fun heq => ?_⟩
        simp only [List.mem_cons, not_or]
        exact ⟨Ne.symm hc, hsame (by simpa using heq)⟩
      · have hle := (percentDecode_length htail).1
        simp only [List.length_cons]
        exact ⟨by omega, fun heq => absurd heq (by omega)⟩

/-- Text without percent signs is its own decoding. -/
theorem percentDecode_of_plain : ∀ {s : List UInt8}, 37 ∉ s → percentDecode s = some s
  | [], _ => rfl
  | c :: rest, h => by
      simp only [List.mem_cons, not_or] at h
      rw [percentDecode_plain (Ne.symm h.1), percentDecode_of_plain h.2]
      rfl

/-! ## §3. Encoding. -/

def percentEncode (escaped : UInt8 → Bool) (s : List UInt8) : List UInt8 :=
  s.flatMap (encodeByte escaped)

section

variable {escaped : UInt8 → Bool}

/-- One byte is read back, and decoding goes on behind it. -/
theorem percentDecode_encodeByte (hpercent : escaped 37 = true) (b : UInt8) (more : List UInt8) :
    percentDecode (encodeByte escaped b ++ more) = (percentDecode more).map (b :: ·) := by
  unfold encodeByte
  by_cases hb : escaped b = true
  · -- the two digits are read as the byte they were written for
    obtain ⟨hhi, hlo, hboth⟩ := hexValue_digits b
    rw [if_pos hb]
    show percentDecode (37 :: _ :: _ :: more) = _
    rw [percentDecode_escape, hhi, hlo]
    show (percentDecode more).map (((b >>> 4) <<< 4 ||| (b &&& 15)) :: ·) = _
    rw [hboth]
  · rw [if_neg hb]
    have hne : b ≠ 37 := by
      intro heq
      subst heq
      exact hb hpercent
    exact percentDecode_plain hne more

/-- **What is encoded is decoded again**, if percent signs are escaped. -/
theorem percentDecode_encode (hpercent : escaped 37 = true) (s : List UInt8) :
    percentDecode (percentEncode escaped s) = some s := by
  induction s with
  | nil => rfl
  | cons b s ih =>
    show percentDecode (encodeByte escaped b ++ percentEncode escaped s) = _
    rw [percentDecode_encodeByte hpercent, ih]
    rfl

/-- A byte that is no hexadecimal digit and no percent sign. -/
def Separator (c : UInt8) : Prop := c ≠ 37 ∧ hexValue c = none

instance (c : UInt8) : Decidable (Separator c) := inferInstanceAs (Decidable (_ ∧ _))

/-- A separator is in the code of itself only, and only if it is not escaped. -/
theorem mem_encodeByte {c b : UInt8} (hc : Separator c) :
    c ∈ encodeByte escaped b ↔ c = b ∧ escaped b = false := by
  obtain ⟨hhi, hlo, -⟩ := hexValue_digits b
  have hdigit : ∀ {n v : UInt8}, hexValue (hexUpper n) = some v → c ≠ hexUpper n := by
    intro n v hn heq
    rw [← heq, hc.2] at hn
    cases hn
  unfold encodeByte
  by_cases hb : escaped b = true
  · rw [if_pos hb]
    simp [hc.1, hdigit hhi, hdigit hlo, hb]
  · rw [if_neg hb]
    simp [hb]

/-- An escaped separator does not occur in what is encoded. -/
theorem not_mem_percentEncode {c : UInt8} (hc : Separator c) (hesc : escaped c = true)
    (s : List UInt8) : c ∉ percentEncode escaped s := by
  intro hmem
  obtain ⟨b, -, hb⟩ := List.mem_flatMap.mp hmem
  obtain ⟨rfl, hnot⟩ := (mem_encodeByte hc).mp hb
  rw [hesc] at hnot
  cases hnot

/-- One that is left alone occurs where it occurred. -/
theorem mem_percentEncode {c : UInt8} (hc : Separator c) (hesc : escaped c = false)
    {s : List UInt8} : c ∈ percentEncode escaped s ↔ c ∈ s := by
  constructor
  · intro hmem
    obtain ⟨b, hb, hin⟩ := List.mem_flatMap.mp hmem
    obtain ⟨rfl, -⟩ := (mem_encodeByte hc).mp hin
    exact hb
  · intro hmem
    exact List.mem_flatMap.mpr ⟨c, hmem, (mem_encodeByte hc).mpr ⟨rfl, hesc⟩⟩

/-- Text is encoded piece by piece. -/
theorem percentEncode_append (s t : List UInt8) :
    percentEncode escaped (s ++ t) = percentEncode escaped s ++ percentEncode escaped t :=
  List.flatMap_append

/-- A byte that is left alone is its own code. -/
theorem percentEncode_cons {c : UInt8} (hesc : escaped c = false) (s : List UInt8) :
    percentEncode escaped (c :: s) = c :: percentEncode escaped s := by
  show encodeByte escaped c ++ percentEncode escaped s = _
  rw [encodeByte, hesc]
  rfl

/-- A separator that is left alone comes first exactly if it came first. -/
theorem head?_percentEncode {c : UInt8} (hc : c ≠ 37) (hesc : escaped c = false)
    (s : List UInt8) : (percentEncode escaped s).head? = some c ↔ s.head? = some c := by
  cases s with
  | nil => rfl
  | cons b s =>
    by_cases hb : escaped b = true
    · have hne : b ≠ c := by
        intro heq
        subst heq
        rw [hesc] at hb
        cases hb
      have hescape : (percentEncode escaped (b :: s)).head? = some 37 := by
        show (encodeByte escaped b ++ percentEncode escaped s).head? = _
        rw [encodeByte, if_pos hb]
        rfl
      rw [hescape]
      simp [Ne.symm hc, hne]
    · rw [percentEncode_cons (by simpa using hb)]
      rfl

/-- **An encoder that leaves a separator alone encodes part by part.** -/
theorem splitOn_percentEncode {c : UInt8} (hc : Separator c) (hesc : escaped c = false)
    (s : List UInt8) :
    (percentEncode escaped s).splitOn c = (s.splitOn c).map (percentEncode escaped) := by
  by_cases hmem : c ∈ s
  · -- the part in front of the first separator, and the rest
    obtain ⟨part, rest, rfl, hpart⟩ := List.eq_append_cons_of_mem hmem
    have hcode : c ∉ percentEncode escaped part := fun h => hpart ((mem_percentEncode hc hesc).mp h)
    rw [percentEncode_append, percentEncode_cons hesc,
      List.splitOn_append_cons_self_of_not_mem hcode,
      List.splitOn_append_cons_self_of_not_mem hpart, List.map_cons, splitOn_percentEncode hc hesc]
  · rw [List.splitOn_eq_singleton hmem,
      List.splitOn_eq_singleton fun h => hmem ((mem_percentEncode hc hesc).mp h)]
    rfl
termination_by s.length
decreasing_by
  subst_vars
  simp only [List.length_append, List.length_cons]
  omega

end

/-! ## §4. Paths. -/

/-- The parts one after the other, each behind a separator. -/
def joined (c : UInt8) (parts : List (List UInt8)) : List UInt8 := parts.flatMap (c :: ·)

/-- The parts between separators that are not empty. -/
def segmentsOf (c : UInt8) (s : List UInt8) : List (List UInt8) :=
  (s.splitOn c).filter fun part => !part.isEmpty

section

variable {c : UInt8}

/-- A part between separators has none in it. -/
theorem not_mem_of_mem_splitOn {s part : List UInt8} (h : part ∈ s.splitOn c) : c ∉ part := by
  by_cases hmem : c ∈ s
  · obtain ⟨first, rest, rfl, hfirst⟩ := List.eq_append_cons_of_mem hmem
    rw [List.splitOn_append_cons_self_of_not_mem hfirst] at h
    rcases List.mem_cons.mp h with rfl | hrest
    · exact hfirst
    · exact not_mem_of_mem_splitOn hrest
  · rw [List.splitOn_eq_singleton hmem] at h
    rw [List.mem_singleton.mp h]
    exact hmem
termination_by s.length
decreasing_by
  subst_vars
  simp only [List.length_append, List.length_cons]
  omega

/-- Parts are split apart again, and split further where they have separators. -/
theorem splitOn_append_joined (parts : List (List UInt8)) :
    ∀ s : List UInt8, (s ++ joined c parts).splitOn c =
      s.splitOn c ++ parts.flatMap (List.splitOn c) := by
  induction parts with
  | nil => simp [joined]
  | cons part parts ih =>
    intro s
    show (s ++ c :: (part ++ joined c parts)).splitOn c = _
    rw [List.splitOn_append_cons_self, ih, List.flatMap_cons]

/-- Parts without separators are got back as they are. -/
theorem splitOn_joined {parts : List (List UInt8)} (h : ∀ part ∈ parts, c ∉ part) :
    (joined c parts).splitOn c = [] :: parts := by
  have hparts : parts.flatMap (List.splitOn c) = parts := by
    induction parts with
    | nil => rfl
    | cons part parts ih =>
      rw [List.flatMap_cons, List.splitOn_eq_singleton (h part List.mem_cons_self),
        ih fun part hpart => h part (List.mem_cons_of_mem _ hpart)]
      rfl
  rw [← List.nil_append (joined c parts), splitOn_append_joined, hparts]
  rfl

/-- Behind a path, the segments of each part follow. -/
theorem segmentsOf_append_joined (s : List UInt8) (parts : List (List UInt8)) :
    segmentsOf c (s ++ joined c parts) = segmentsOf c s ++ parts.flatMap (segmentsOf c) := by
  unfold segmentsOf
  rw [splitOn_append_joined, List.filter_append, List.filter_flatMap]

/-- The segments of one part without separators: itself, unless it is empty. -/
theorem segmentsOf_part {part : List UInt8} (h : c ∉ part) :
    segmentsOf c part = [part].filter fun part => !part.isEmpty := by
  rw [segmentsOf, List.splitOn_eq_singleton h]

/-- **A path of parts without separators has these as its segments**, those that
are not empty. -/
theorem flatMap_segmentsOf {parts : List (List UInt8)} (h : ∀ part ∈ parts, c ∉ part) :
    parts.flatMap (segmentsOf c) = parts.filter fun part => !part.isEmpty := by
  induction parts with
  | nil => rfl
  | cons part parts ih =>
    rw [List.flatMap_cons, segmentsOf_part (h part List.mem_cons_self),
      ih fun part hpart => h part (List.mem_cons_of_mem _ hpart), ← List.filter_append]
    rfl

/-- In front of a leading separator there is an empty part. -/
theorem splitOn_cons_self (s : List UInt8) : (c :: s).splitOn c = [] :: s.splitOn c :=
  List.splitOn_append_cons_self [] s

/-- Text behind a separator is the join of the parts in it. -/
theorem joined_splitOn (s : List UInt8) : joined c (s.splitOn c) = c :: s := by
  -- the separators stand in front of the parts, not only between them
  have hjoin : ∀ parts : List (List UInt8), parts ≠ [] →
      joined c parts = c :: [c].intercalate parts := by
    intro parts hne
    induction parts with
    | nil => exact absurd rfl hne
    | cons part parts ih =>
      show c :: (part ++ joined c parts) = _
      cases parts with
      | nil => simp [joined]
      | cons part' parts =>
        rw [ih (List.cons_ne_nil _ _), List.intercalate_cons_cons, List.append_assoc]
        rfl
  rw [hjoin _ (List.splitOn_ne_nil c s), List.intercalate_splitOn]

/-- Dropping empty parts drops one separator for each. -/
theorem length_joined_filter (parts : List (List UInt8)) :
    (joined c (parts.filter fun part => !part.isEmpty)).length + parts.count [] =
      (joined c parts).length := by
  induction parts with
  | nil => rfl
  | cons part parts ih =>
    have hlength : ∀ ps, (joined c (part :: ps)).length =
        part.length + 1 + (joined c ps).length := by
      intro ps
      show (c :: (part ++ joined c ps)).length = _
      rw [List.length_cons, List.length_append]
      omega
    cases part with
    | nil =>
      rw [hlength, List.count_cons_self, ← ih]
      show (joined c (parts.filter fun part => !part.isEmpty)).length + _ = _
      rw [List.length_nil]
      omega
    | cons b part =>
      rw [List.filter_cons_of_pos rfl, hlength, hlength, List.count_cons_of_ne (by simp), ← ih]
      omega

/-- Where there are no empty parts, none are dropped. -/
theorem filter_nonempty {parts : List (List UInt8)} (h : [] ∉ parts) :
    (parts.filter fun part => !part.isEmpty) = parts := by
  rw [List.filter_eq_self]
  intro part hmem
  cases part with
  | nil => exact absurd hmem h
  | cons => rfl

/-- A byte other than the separator is in a path when it is in one of its parts. -/
theorem mem_joined {b : UInt8} (hb : b ≠ c) {parts : List (List UInt8)} :
    b ∈ joined c parts ↔ ∃ part ∈ parts, b ∈ part := by
  constructor
  · intro hmem
    obtain ⟨part, hpart, hin⟩ := List.mem_flatMap.mp hmem
    exact ⟨part, hpart, (List.mem_cons.mp hin).resolve_left hb⟩
  · intro hmem
    obtain ⟨part, hpart, hin⟩ := hmem
    exact List.mem_flatMap.mpr ⟨part, hpart, List.mem_cons_of_mem _ hin⟩

/-- **Decoding gives a path back after its empty parts were dropped** exactly when
there were none, and no percent sign either. -/
theorem percentDecode_filter_iff (hc : c ≠ 37) (parts : List (List UInt8)) :
    percentDecode (joined c (parts.filter fun part => !part.isEmpty)) = some (joined c parts) ↔
      [] ∉ parts ∧ ∀ part ∈ parts, 37 ∉ part := by
  have hsign : 37 ∈ joined c parts ↔ ∃ part ∈ parts, 37 ∈ part := mem_joined (Ne.symm hc)
  constructor
  · intro hdecode
    -- dropping and decoding can only shorten
    obtain ⟨hle, hplain⟩ := percentDecode_length hdecode
    have hdropped := length_joined_filter (c := c) parts
    have hempty : [] ∉ parts := List.count_eq_zero.mp (by omega)
    rw [filter_nonempty hempty] at hplain
    exact ⟨hempty, fun part hmem hin => hplain rfl (hsign.mpr ⟨part, hmem, hin⟩)⟩
  · intro ⟨hempty, hplain⟩
    rw [filter_nonempty hempty]
    refine percentDecode_of_plain fun hmem => ?_
    obtain ⟨part, hpart, hin⟩ := hsign.mp hmem
    exact hplain part hpart hin

/-- Escapes in a path are those in its parts. -/
theorem percentDecode_joined (hc : c ≠ 37) {parts : List (List UInt8)} :
    ∀ {out : List (List UInt8)}, parts.mapM percentDecode = some out →
      percentDecode (joined c parts) = some (joined c out) := by
  induction parts with
  | nil =>
    intro out h
    obtain rfl : [] = out := by simpa using h
    rfl
  | cons part parts ih =>
    intro out h
    rw [List.mapM_cons] at h
    obtain ⟨first, hfirst, h⟩ := Option.bind_eq_some_iff.mp h
    obtain ⟨rest, hrest, h⟩ := Option.bind_eq_some_iff.mp h
    obtain rfl : first :: rest = out := Option.some.inj h
    show percentDecode (c :: (part ++ joined c parts)) = _
    rw [percentDecode_plain hc, percentDecode_append _ hfirst, ih hrest]
    rfl

/-- Parts that were encoded one by one are decoded one by one. -/
theorem mapM_percentDecode_encode {escaped : UInt8 → Bool} (hpercent : escaped 37 = true)
    (parts : List (List UInt8)) :
    (parts.map (percentEncode escaped)).mapM percentDecode = some parts := by
  induction parts with
  | nil => rfl
  | cons part parts ih =>
    rw [List.map_cons, List.mapM_cons, percentDecode_encode hpercent, ih]
    rfl

end

end HNodeMgmt.Lib
