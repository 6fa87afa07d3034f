import ClusterAgent.Protocol.Inventory
import ClusterAgent.Proofs.ResponseStream
import ClusterAgent.Proofs.Utf8

/-!
# Reading the fields of an `INFO` line

A line of an `INFO` answer is cut into fields at `,`, and a field into a key and a value at its
first `:`, both sides trimmed. White space around the line therefore changes nothing: the reader
meets a padded line exactly as the line itself (`Inventory.readLine_trimBlank`), since padding
only lands at the front of the first field and at the end of the last one, and is trimmed away
there.

A field written `key: value` reads as that key and value (`Inventory.splitPair_field`), and an id
group written `[a:b:...]` with the ids in decimal reads back as the ids, for ids that fit a
signed 64-bit word (`Inventory.parseIds_groupText`).
-/

namespace ClusterAgent

namespace Bytes

theorem ofString_append (s t : String) : ofString (s ++ t) = ofString s ++ ofString t := by
  simp only [ofString_eq_flatMap, String.toList_append, List.flatMap_append]

theorem ofString_intercalate (sep : String) (l : List String) :
    ofString (sep.intercalate l) = (ofString sep).intercalate (l.map ofString) := by
  induction l with
  | nil => simp [String.intercalate_nil, ofString_eq_flatMap]
  | cons a tl ih =>
    cases tl with
    | nil => simp [String.intercalate_singleton]
    | cons b tl =>
      rw [String.intercalate_cons_cons, ofString_append, ofString_append, ih]
      simp

theorem mem_ofString_ascii {x : UInt8} (hx : x.toNat < 0x80) (s : String) :
    x ∈ ofString s ↔ Char.ofNat x.toNat ∈ s.toList := by
  rw [ofString_eq_flatMap, List.mem_flatMap]
  constructor
  · rintro ⟨c, hc, hxc⟩
    obtain ⟨b0, t, ht⟩ := List.exists_cons_of_ne_nil (String.utf8EncodeChar_ne_nil (c := c))
    rw [ht] at hxc
    rcases List.mem_cons.1 hxc with rfl | hxt
    · -- an ASCII first byte is the whole character
      have hlead := leadChar?_utf8EncodeChar ht []
      rw [leadChar?_ascii hx] at hlead
      obtain ⟨rfl, -⟩ := Prod.mk.inj (Option.some.inj hlead)
      exact hc
    · have := cont_of_mem_utf8EncodeChar ht hxt
      omega
  · intro hc
    refine ⟨_, hc, ?_⟩
    rw [← Piece.bytes_char, Piece.bytes_ascii hx]
    exact List.mem_singleton_self x

theorem not_cont_of_leadChar? {b0 : UInt8} {r : Bytes} {v : Char × Nat}
    (h : leadChar? b0 r = some v) : ¬ (0x80 ≤ b0.toNat ∧ b0.toNat ≤ 0xBF) := by
  intro hc
  have h1 : ¬ b0.toNat < 0x80 := by omega
  have h2 : ¬ (0xC2 ≤ b0.toNat ∧ b0.toNat ≤ 0xDF) := by omega
  have h3 : ¬ (0xE0 ≤ b0.toNat ∧ b0.toNat ≤ 0xEF) := by omega
  have h4 : ¬ (0xF0 ≤ b0.toNat ∧ b0.toNat ≤ 0xF4) := by omega
  simp [leadChar?, h1, h2, h3, h4] at h

theorem pieces_ofString_append (s : String) (b : Bytes) :
    pieces (ofString s ++ b) = s.toList.map .char ++ pieces b := by
  rw [ofString_eq_flatMap]
  induction s.toList with
  | nil => simp
  | cons c l ih =>
    obtain ⟨b0, t, ht⟩ := List.exists_cons_of_ne_nil (String.utf8EncodeChar_ne_nil (c := c))
    rw [List.flatMap_cons, List.append_assoc, ht, List.cons_append,
      pieces_cons_of_leadChar? (leadChar?_utf8EncodeChar ht _), List.drop_left, ih]
    simp

theorem pieces_append_ofString (b : Bytes) (s : String) :
    pieces (b ++ ofString s) = pieces b ++ s.toList.map .char := by
  cases hs : s.toList with
  | nil =>
    have : ofString s = [] := by rw [ofString_eq_flatMap, hs]; rfl
    simp [this]
  | cons c l =>
    obtain ⟨b0, t, ht⟩ := List.exists_cons_of_ne_nil (String.utf8EncodeChar_ne_nil (c := c))
    have hstart : ofString s = b0 :: (t ++ l.flatMap String.utf8EncodeChar) := by
      rw [ofString_eq_flatMap, hs, List.flatMap_cons, ht, List.cons_append]
    have hfirst := not_cont_of_leadChar? (leadChar?_utf8EncodeChar ht (l.flatMap String.utf8EncodeChar))
    rw [hstart, pieces_append_of_not_cont b hfirst, ← hstart, pieces_ofString, hs]

/-! ### White space at the ends -/

section Blank

variable {p : Piece → Bool}

theorem dropWhile_append_of_all {l m : List Piece} (hl : ∀ x ∈ l, p x = true) :
    (l ++ m).dropWhile p = m.dropWhile p := by
  rw [List.dropWhile_append, List.dropWhile_eq_nil_iff.2 hl]
  rfl

theorem rdropWhile_append_of_all {l m : List Piece} (hm : ∀ x ∈ m, p x = true) :
    (l ++ m).rdropWhile p = l.rdropWhile p := by
  unfold List.rdropWhile
  rw [List.reverse_append, dropWhile_append_of_all (fun x hx => hm x (List.mem_reverse.1 hx))]

end Blank

theorem trimBlank_blank_append {L : String} (hL : ∀ c ∈ L.toList, Text.isBlank c = true)
    (b : Bytes) : (ofString L ++ b).trimBlank = b.trimBlank := by
  rw [trimBlank_eq, trimBlank_eq, pieces_ofString_append,
    dropWhile_append_of_all (by simpa [Text.Piece.isBlank] using hL)]

theorem trimBlank_append_blank {R : String} (hR : ∀ c ∈ R.toList, Text.isBlank c = true)
    (b : Bytes) : (b ++ ofString R).trimBlank = b.trimBlank := by
  have hblank : ∀ x ∈ R.toList.map Piece.char, Text.Piece.isBlank x = true := by
    simpa [Text.Piece.isBlank] using hR
  rw [trimBlank_eq, trimBlank_eq, pieces_append_ofString, List.dropWhile_append]
  split
  · rename_i hnil
    rw [List.isEmpty_iff.1 hnil, List.dropWhile_eq_nil_iff.2 hblank]
  · rw [rdropWhile_append_of_all hblank]

/-- A string is its white space in front, its trimmed text, and its white space behind. -/
theorem ofString_trim_parts (s : String) :
    ∃ L R : String, (∀ c ∈ L.toList, Text.isBlank c = true) ∧
      (∀ c ∈ R.toList, Text.isBlank c = true) ∧
      ofString s = ofString L ++ ofString s.trimBlank ++ ofString R := by
  let rest := s.toList.dropWhile Text.isBlank
  refine ⟨String.ofList (s.toList.takeWhile Text.isBlank),
    String.ofList (rest.rtakeWhile Text.isBlank), ?_, ?_, ?_⟩
  · intro c hc
    rw [String.toList_ofList] at hc
    exact List.mem_takeWhile_imp hc
  · intro c hc
    rw [String.toList_ofList] at hc
    exact List.mem_rtakeWhile_imp hc
  · have htrim : s.trimBlank = String.ofList (rest.rdropWhile Text.isBlank) := rfl
    have hsplit : s.toList = s.toList.takeWhile Text.isBlank ++
        (rest.rdropWhile Text.isBlank ++ rest.rtakeWhile Text.isBlank) := by
      rw [List.rdropWhile_append_rtakeWhile, List.takeWhile_append_dropWhile]
    rw [htrim]
    simp only [ofString_eq_flatMap, String.toList_ofList]
    conv => lhs; rw [hsplit]
    simp only [List.flatMap_append, List.append_assoc]

/-- Bytes that are all visible ASCII at both ends lose nothing to trimming. -/
theorem trimBlank_of_visible_ends {x y : UInt8} (hx : 0x21 ≤ x.toNat ∧ x.toNat ≤ 0x7E)
    (hy : 0x21 ≤ y.toNat ∧ y.toNat ≤ 0x7E) (m : Bytes) :
    Bytes.trimBlank (x :: (m ++ [y])) = x :: (m ++ [y]) := by
  have hpieces : pieces (x :: (m ++ [y])) =
      .char (Char.ofNat x.toNat) :: (pieces m ++ [.char (Char.ofNat y.toNat)]) := by
    rw [pieces_cons_ascii (by omega), pieces_append_of_not_cont m (by omega),
      pieces_cons_ascii (by omega), pieces_nil]
  rw [trimBlank_eq, hpieces, List.dropWhile_cons_of_neg (by simp [isBlank_visible hx.1 hx.2]),
    ← List.cons_append, List.rdropWhile_concat_neg _ _ _ (by simp [isBlank_visible hy.1 hy.2]),
    List.cons_append, ← hpieces, flatten_pieces]

/-! ### Decimal ids -/

theorem utf8EncodeChar_digitChar {d : Nat} (hd : d < 10) :
    ∃ x : UInt8, String.utf8EncodeChar d.digitChar = [x] ∧ x.toNat = 48 + d := by
  have hn := Nat.toNat_digitChar_of_lt_ten hd
  have hsize : d.digitChar.utf8Size = 1 :=
    Char.utf8Size_eq_one_iff.mpr (UInt32.le_iff_toNat_le.mpr (by
      change d.digitChar.toNat ≤ 127
      omega))
  refine ⟨_, String.utf8EncodeChar_eq_singleton hsize, ?_⟩
  change d.digitChar.toNat % 256 = 48 + d
  omega

theorem digitValue?_digit {x : UInt8} {d : Nat} (hd : d < 10) (hx : x.toNat = 48 + d) :
    Text.digitValue? 10 x = some d := by
  have hdigit : 48 ≤ 48 + d ∧ 48 + d ≤ 57 := by omega
  simp only [Text.digitValue?, hx, if_pos hdigit, Nat.add_sub_cancel_left, if_pos hd]

theorem digit_of_digitValue? {x : UInt8} {d : Nat} (h : Text.digitValue? 10 x = some d) :
    0x30 ≤ x.toNat ∧ x.toNat ≤ 0x39 := by
  simp only [Text.digitValue?] at h
  split_ifs at h <;> simp at h <;> omega

theorem digitsFrom_append (base acc : Nat) (a b : Bytes) :
    digitsFrom base acc (a ++ b) = (digitsFrom base acc a).bind fun v => digitsFrom base v b := by
  simp only [digitsFrom, List.foldlM_append]
  rfl

theorem numeral_repr (n : Nat) : (ofString n.repr).Numeral 10 n := by
  refine ⟨fun h => Nat.repr_ne_empty (ofString_eq_nil_iff.1 h), ?_⟩
  induction n using Nat.strong_induction_on with
  | _ n ih =>
    rw [ofString_eq_flatMap, Nat.toList_repr, Nat.toDigits_eq_if (by decide)]
    split_ifs with hn
    · obtain ⟨x, hx, hxd⟩ := utf8EncodeChar_digitChar hn
      simp [hx, digitsFrom, digitValue?_digit hn hxd]
    · -- the last digit is the remainder, after the digits of the quotient
      have hd : n % 10 < 10 := Nat.mod_lt n (by decide)
      obtain ⟨x, hx, hxd⟩ := utf8EncodeChar_digitChar hd
      have hdiv := ih (n / 10) (by omega)
      rw [ofString_eq_flatMap, Nat.toList_repr] at hdiv
      rw [List.flatMap_append, digitsFrom_append, hdiv]
      simp [hx, digitsFrom, digitValue?_digit hd hxd]
      omega

theorem decimal_toString (z : Int) : (ofString (toString z)).Decimal z := by
  cases z with
  | ofNat n =>
    have hrepr : toString (Int.ofNat n) = n.repr := rfl
    simp only [Decimal, hrepr]
    simp [numeral_repr]
  | negSucc m =>
    have hrepr : toString (Int.negSucc m) = "-" ++ (m + 1).repr := rfl
    have hminus : ofString "-" = [0x2D] := by decide +kernel
    rw [hrepr, ofString_append, hminus, List.singleton_append]
    simp only [Decimal, if_pos (Int.negSucc_lt_zero m), List.head?_cons, List.tail_cons]
    exact ⟨trivial, numeral_repr (m + 1)⟩

theorem Decimal.mem {t : Bytes} {z : Int} (h : t.Decimal z) {x : UInt8} (hx : x ∈ t) :
    x = 0x2D ∨ (0x30 ≤ x.toNat ∧ x.toNat ≤ 0x39) := by
  unfold Decimal at h
  split_ifs at h
  · obtain ⟨hhead, hu⟩ := h
    obtain ⟨a, u, rfl⟩ := List.exists_cons_of_ne_nil (fun e : t = [] => by simp [e] at hhead)
    simp only [List.head?_cons, Option.some.injEq, List.tail_cons] at hhead hu
    subst hhead
    rcases List.mem_cons.1 hx with rfl | hx
    · exact .inl rfl
    · obtain ⟨d, hd⟩ := digit_of_digitsFrom hu.2 x hx
      exact .inr (digit_of_digitValue? hd)
  · obtain ⟨d, hd⟩ := digit_of_digitsFrom h.2 x hx
    exact .inr (digit_of_digitValue? hd)

theorem visible_not_mem_blank {x : UInt8} (hx : 0x21 ≤ x.toNat ∧ x.toNat ≤ 0x7E) {L : String}
    (hL : ∀ c ∈ L.toList, Text.isBlank c = true) : x ∉ ofString L := by
  rw [mem_ofString_ascii (by omega)]
  intro h
  have hvisible := isBlank_visible hx.1 hx.2
  simp only [Text.Piece.isBlank] at hvisible
  rw [hL _ h] at hvisible
  exact absurd hvisible (by decide)

theorem cut_eq_none {sep : UInt8} {b : Bytes} (h : cut sep b = none) : sep ∉ b := by
  induction b with
  | nil => simp
  | cons c cs ih =>
    simp only [cut] at h
    split at h
    · simp at h
    · rename_i hc
      rw [Option.map_eq_none_iff] at h
      simp only [List.mem_cons, not_or]
      exact ⟨fun e => hc (by simp [e]), ih h⟩

end Bytes

namespace Inventory

open Bytes

/-! ### Fields -/

theorem splitOn_append_left {x : UInt8} {P : Bytes} (hP : x ∉ P) (m : Bytes) :
    (P ++ m).splitOn x = (m.splitOn x).modifyHead (P ++ ·) := by
  induction P with
  | nil => rw [List.nil_append]; cases m.splitOn x <;> rfl
  | cons c P ih =>
    have hc : (c == x) = false := by
      simp only [beq_eq_false_iff_ne]
      exact fun e => hP (e ▸ List.mem_cons_self)
    rw [List.cons_append, List.splitOn_cons_eq_if_modifyHead, hc, if_neg Bool.false_ne_true,
      ih fun h => hP (List.mem_cons_of_mem _ h), List.modifyHead_modifyHead]
    rfl

theorem splitOn_append_right {x : UInt8} {Q : Bytes} (hQ : x ∉ Q) (m : Bytes) :
    ∃ fs f, m.splitOn x = fs ++ [f] ∧ (m ++ Q).splitOn x = fs ++ [f ++ Q] := by
  induction m with
  | nil => exact ⟨[], [], by simp [List.splitOn_nil], by simp [List.splitOn_eq_singleton hQ]⟩
  | cons c m ih =>
    obtain ⟨fs, f, h1, h2⟩ := ih
    rw [List.cons_append, List.splitOn_cons_eq_if_modifyHead,
      List.splitOn_cons_eq_if_modifyHead, h1, h2]
    split
    · exact ⟨[] :: fs, f, rfl, rfl⟩
    · cases fs with
      | nil => exact ⟨[], c :: f, rfl, rfl⟩
      | cons g gs => exact ⟨(c :: g) :: gs, f, rfl, rfl⟩

theorem splitPair_blank_append {L : String} (hL : ∀ c ∈ L.toList, Text.isBlank c = true)
    (f : Bytes) : splitPair (ofString L ++ f) = splitPair f := by
  unfold splitPair
  rw [cut_append_of_not_mem (visible_not_mem_blank (by decide) hL)]
  cases cut 0x3A f with
  | none => rfl
  | some kv => simp [trimBlank_blank_append hL]

theorem splitPair_append_blank {R : String} (hR : ∀ c ∈ R.toList, Text.isBlank c = true)
    (f : Bytes) : splitPair (f ++ ofString R) = splitPair f := by
  have hcolon : (0x3A : UInt8) ∉ ofString R := visible_not_mem_blank (by decide) hR
  unfold splitPair
  cases hcut : cut 0x3A f with
  | none =>
    rw [cut_of_not_mem]
    simpa [not_or] using ⟨cut_eq_none hcut, hcolon⟩
  | some kv =>
    obtain ⟨k, v⟩ := kv
    obtain ⟨rfl, hk⟩ := cut_eq_some hcut
    rw [List.append_assoc, List.cons_append, cut_append_of_not_mem hk, cut_cons_self]
    simp [trimBlank_append_blank hR]

theorem lookupField_append_congr {fs : List Bytes} {f g : Bytes} (h : splitPair f = splitPair g)
    (key : String) : lookupField (fs ++ [f]) key = lookupField (fs ++ [g]) key := by
  simp only [lookupField, List.findSome?_append, List.findSome?_singleton, h]

/-- A line reads as another when their first fields split alike and their other fields give the
same value for every key. -/
theorem readLine_congr {n : Nat} {r : Reading} {a b fa fb : Bytes} {as bs : List Bytes}
    (ha : a.splitOn 0x2C = fa :: as) (hb : b.splitOn 0x2C = fb :: bs)
    (hfirst : splitPair fa = splitPair fb) (hrest : ∀ key, lookupField as key = lookupField bs key) :
    readLine n r a = readLine n r b := by
  simp only [readLine, ha, hb, hfirst, hrest]

/-- White space around a line changes nothing: it lands at the front of the first field and at
the end of the last one, which are trimmed. -/
theorem readLine_pad {L R : String} (hL : ∀ c ∈ L.toList, Text.isBlank c = true)
    (hR : ∀ c ∈ R.toList, Text.isBlank c = true) (n : Nat) (r : Reading) (m : Bytes) :
    readLine n r (ofString L ++ m ++ ofString R) = readLine n r m := by
  have hcommaL : (0x2C : UInt8) ∉ ofString L := visible_not_mem_blank (by decide) hL
  have hcommaR : (0x2C : UInt8) ∉ ofString R := visible_not_mem_blank (by decide) hR
  obtain ⟨fs, f, hm, hmR⟩ := splitOn_append_right hcommaR m
  have hfull : (ofString L ++ m ++ ofString R).splitOn 0x2C =
      (fs ++ [f ++ ofString R]).modifyHead (ofString L ++ ·) := by
    rw [List.append_assoc, splitOn_append_left hcommaL, hmR]
  cases fs with
  | nil =>
    refine @readLine_congr n r _ _ _ _ [] [] hfull hm ?_ fun _ => rfl
    rw [splitPair_blank_append hL, splitPair_append_blank hR]
  | cons g gs =>
    refine readLine_congr hfull hm (splitPair_blank_append hL g) fun key => ?_
    exact lookupField_append_congr (splitPair_append_blank hR f) key

theorem readLine_trimBlank (n : Nat) (r : Reading) (s : String) :
    readLine n r (ofString s.trimBlank) = readLine n r (ofString s) := by
  obtain ⟨L, R, hL, hR, hs⟩ := ofString_trim_parts s
  rw [hs, readLine_pad hL hR]

/-- A field as written: `key: value`. -/
def fieldText (key value : String) : String := key ++ ": " ++ value

/-- An id group as written: `[a:b:...]`, the ids in decimal. -/
def groupText (ids : List Int) : String := "[" ++ ":".intercalate (ids.map toString) ++ "]"

theorem splitPair_field (key : String) {v : String} (hkey : ':' ∉ key.toList) (hk : key.trimBlank = key)
    (hv : v.trimBlank = v) : splitPair (ofString (fieldText key v)) = some (ofString key, ofString v) := by
  have hsep : ofString ": " = [0x3A, 0x20] := by decide +kernel
  have hcolon : (0x3A : UInt8) ∉ ofString key := by
    rw [mem_ofString_ascii (by decide)]
    exact hkey
  rw [fieldText, ofString_append, ofString_append, hsep, List.append_assoc]
  unfold splitPair
  rw [List.cons_append, cut_append_of_not_mem hcolon, cut_cons_self]
  simp [trimBlank_ofString, hk, trimBlank_space_cons, hv]

/-! ### Id groups -/

theorem mem_of_mem_intercalate {sep : Bytes} {x : UInt8} :
    ∀ {ls : List Bytes}, x ∈ sep.intercalate ls → x ∈ sep ∨ ∃ l ∈ ls, x ∈ l
  | [], h => by simp at h
  | [a], h => .inr ⟨a, List.mem_singleton_self a, by simpa using h⟩
  | a :: b :: ls, h => by
    rw [List.intercalate_cons_cons, List.mem_append, List.mem_append] at h
    rcases h with (h | h) | h
    · exact .inr ⟨a, List.mem_cons_self, h⟩
    · exact .inl h
    · rcases mem_of_mem_intercalate h with h | ⟨l, hl, hx⟩
      · exact .inl h
      · exact .inr ⟨l, List.mem_cons_of_mem _ hl, hx⟩

theorem ofString_groupText (ids : List Int) :
    ofString (groupText ids) =
      0x5B :: ([0x3A].intercalate (ids.map fun z => ofString (toString z)) ++ [0x5D]) := by
  have hopen : ofString "[" = [0x5B] := by decide +kernel
  have hclose : ofString "]" = [0x5D] := by decide +kernel
  have hcolon : ofString ":" = [0x3A] := by decide +kernel
  rw [groupText, ofString_append, ofString_append, hopen, hclose, ofString_intercalate, hcolon,
    List.map_map]
  rfl

theorem mem_groupText {ids : List Int} {x : UInt8} (h : x ∈ ofString (groupText ids)) :
    x = 0x5B ∨ x = 0x5D ∨ x = 0x3A ∨ x = 0x2D ∨ (0x30 ≤ x.toNat ∧ x.toNat ≤ 0x39) := by
  rw [ofString_groupText, List.mem_cons, List.mem_append, List.mem_singleton] at h
  rcases h with h | h | h
  · exact .inl h
  · rcases mem_of_mem_intercalate h with h | ⟨l, hl, hx⟩
    · exact .inr (.inr (.inl (List.mem_singleton.1 h)))
    · obtain ⟨z, -, rfl⟩ := List.mem_map.1 hl
      rcases (decimal_toString z).mem hx with h | h
      · exact .inr (.inr (.inr (.inl h)))
      · exact .inr (.inr (.inr (.inr h)))
  · exact .inr (.inl h)

theorem decimal?_toString {z : Int} (hlo : -2 ^ 63 ≤ z) (hhi : z < 2 ^ 63) :
    Text.decimal? (ofString (toString z)).trimBlank = some z := by
  have hdec := decimal_toString z
  have hvisible : ∀ x ∈ ofString (toString z), 0x21 ≤ x.toNat ∧ x.toNat ≤ 0x7E := by
    intro x hx
    rcases hdec.mem hx with rfl | h
    · decide
    · omega
  rw [trimBlank_visible hvisible, Text.decimal?_of_decimal hdec hlo hhi]

/-- Ids that fit a signed 64-bit word read back from their decimals, one by one. -/
theorem mapM_decimal?_toString {zs : List Int} (hzs : ∀ z ∈ zs, -2 ^ 63 ≤ z ∧ z < 2 ^ 63) :
    (zs.map fun z => ofString (toString z)).mapM (fun part => Text.decimal? part.trimBlank) =
      some zs := by
  induction zs with
  | nil => rfl
  | cons z zs ih =>
    have hz := hzs z List.mem_cons_self
    simp only [List.map_cons, List.mapM_cons]
    rw [decimal?_toString hz.1 hz.2, ih fun w hw => hzs w (List.mem_cons_of_mem _ hw)]
    rfl

theorem parseIds_groupText {ids : List Int} (hne : ids ≠ [])
    (hfit : ∀ z ∈ ids, -2 ^ 63 ≤ z ∧ z < 2 ^ 63) : parseIds (ofString (groupText ids)) = some ids := by
  have hparts : ∀ l ∈ ids.map (fun z => ofString (toString z)), (0x3A : UInt8) ∉ l := by
    simp only [List.mem_map]
    rintro _ ⟨z, -, rfl⟩ hmem
    rcases (decimal_toString z).mem hmem with h | h
    · exact absurd h (by decide)
    · simp at h
  have hsplit : ([0x3A].intercalate (ids.map fun z => ofString (toString z))).splitOn 0x3A =
      ids.map fun z => ofString (toString z) :=
    List.splitOn_intercalate _ hparts (by simpa using hne)
  unfold parseIds
  rw [ofString_groupText, trimBlank_of_visible_ends (by decide) (by decide)]
  simp only [List.getLast?_concat, beq_self_eq_true, if_true, List.dropLast_concat, hsplit]
  exact mapM_decimal?_toString hfit

end Inventory

end ClusterAgent
