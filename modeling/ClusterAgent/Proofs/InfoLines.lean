import ClusterAgent.Proofs.InfoFields

/-!
# Lines of an `INFO` answer

A proxy's `INFO` answer has three kinds of record lines, and blank lines:

* `Node: [i],Name: r`, possibly followed by other fields, names node `i` with route `r`;
* `Vhost: [i:j:k], Alias: a` gives one alias `a` of virtual host `j` of node `i`;
* `Context: [i:j:k], Context: p, Status: w` gives the status of path `p` on that virtual host,
  the status spelled `w` in any letter case.

`Info.Line` is such a line and `Info.Line.text` writes it; `Info.answer` joins lines by line
feeds, each line ended by a carriage return or not.

Each kind of line is read here once and for all: a `Node` line records its route under its id
(`Info.readLine_node`), a `Vhost` line opens its virtual host the first time and adds its alias
(`Info.readLine_vhost_new`, `Info.readLine_vhost_known`), and a `Context` line sets the status
of the normal form of its path (`Info.readLine_context`). A carriage return at the end of a line,
and a line of white space, change nothing (`Info.readRow_record`, `Info.readRow_blank`).
-/

namespace ClusterAgent

namespace Info

open Inventory

/-- A value that fits a signed 64-bit word, as the reader's ids must. -/
def Fits (z : Int) : Prop := -2 ^ 63 ≤ z ∧ z < 2 ^ 63

instance : DecidablePred Fits := fun z => inferInstanceAs (Decidable (-2 ^ 63 ≤ z ∧ z < 2 ^ 63))

/-- A name, alias or path the format carries: no `,`, no line feed and no white space at
either end. -/
def Field (s : String) : Prop := ',' ∉ s.toList ∧ '\n' ∉ s.toList ∧ s.trimBlank = s

instance : DecidablePred Field := fun s =>
  inferInstanceAs (Decidable (',' ∉ s.toList ∧ '\n' ∉ s.toList ∧ s.trimBlank = s))

/-- A line of an `INFO` answer. -/
inductive Line where
  /-- `Node: [i],Name: r`, then other fields. -/
  | node (id : Int) (name : String) (others : List String)
  /-- `Vhost: [i:j:k], Alias: a`: an alias of virtual host `j` of node `i`. -/
  | vhost (node vhost tag : Int) (hostAlias : String)
  /-- `Context: [i:j:k], Context: p, Status: w`, the status spelled `w`. -/
  | context (node vhost tag : Int) (path : String) (status : ContextStatus) (spelling : String)
  /-- A line of white space. -/
  | blank (text : String)
  deriving DecidableEq, Repr

namespace Line

/-- The line as written. -/
def text : Line → String
  | node i r os =>
    fieldText "Node" (groupText [i]) ++ "," ++ fieldText "Name" r ++ String.join (os.map ("," ++ ·))
  | vhost i j k a => fieldText "Vhost" (groupText [i, j, k]) ++ ", " ++ fieldText "Alias" a
  | context i j k p _ w =>
    fieldText "Context" (groupText [i, j, k]) ++ ", " ++ fieldText "Context" p ++ ", " ++
      fieldText "Status" w
  | blank w => w

/-- A line the format allows: ids that fit a word, names, aliases and paths it can carry, other
fields on the line, a status spelled in some letter case, and a blank line of white space. -/
def Proper : Line → Prop
  | node i r os => Fits i ∧ Field r ∧ ∀ o ∈ os, '\n' ∉ o.toList
  | vhost i j k a => Fits i ∧ Fits j ∧ Fits k ∧ Field a
  | context i j k p s w => Fits i ∧ Fits j ∧ Fits k ∧ Field p ∧ w.toUpper = s.name
  | blank w => '\n' ∉ w.toList ∧ w.trimBlank = ""

/-- Whether a line is a record, not a blank line. -/
def IsRecord : Line → Prop
  | blank _ => False
  | _ => True

end Line

/-- The text of a line with its end: a carriage return or nothing. -/
def rowText (x : Line × Bool) : String := x.1.text ++ if x.2 then "\r" else ""

/-- An answer: its lines joined by line feeds. -/
def answer (ls : List (Line × Bool)) : String := "\n".intercalate (ls.map rowText)

/-! ### Bytes of a line -/

section Bytes

open Bytes

theorem not_mem_fieldText {y : UInt8} (hy : y.toNat < 0x80) (hsep : y ≠ 0x3A ∧ y ≠ 0x20)
    {key v : String} (hk : Char.ofNat y.toNat ∉ key.toList) (hv : y ∉ ofString v) :
    y ∉ ofString (fieldText key v) := by
  have hcolon : ofString ": " = [0x3A, 0x20] := by decide +kernel
  rw [fieldText, ofString_append, ofString_append, hcolon]
  simp only [List.mem_append, List.mem_cons, List.not_mem_nil, not_or]
  refine ⟨⟨?_, hsep.1, hsep.2, fun h => h⟩, hv⟩
  rwa [mem_ofString_ascii hy]

theorem not_mem_groupText {y : UInt8} (hy : y ≠ 0x5B ∧ y ≠ 0x5D ∧ y ≠ 0x3A ∧ y ≠ 0x2D)
    (hdigit : ¬ (0x30 ≤ y.toNat ∧ y.toNat ≤ 0x39)) (ids : List Int) :
    y ∉ ofString (groupText ids) := by
  intro h
  rcases mem_groupText h with h | h | h | h | h
  · exact hy.1 h
  · exact hy.2.1 h
  · exact hy.2.2.1 h
  · exact hy.2.2.2 h
  · exact hdigit h

theorem comma_not_mem {s : String} (hs : ',' ∉ s.toList) : (0x2C : UInt8) ∉ ofString s := by
  rw [mem_ofString_ascii (by decide)]
  exact hs

theorem comma_not_mem_groupText (ids : List Int) : (0x2C : UInt8) ∉ ofString (groupText ids) :=
  not_mem_groupText (by decide) (by decide) ids

theorem comma_not_mem_tag {key : String} (hkey : ',' ∉ key.toList) (ids : List Int) :
    (0x2C : UInt8) ∉ ofString (fieldText key (groupText ids)) :=
  not_mem_fieldText (by decide) (by decide) hkey (comma_not_mem_groupText ids)

theorem comma_not_mem_field (key : String) {v : String} (hkey : ',' ∉ key.toList) (hv : ',' ∉ v.toList) :
    (0x2C : UInt8) ∉ ofString (fieldText key v) :=
  not_mem_fieldText (by decide) (by decide) hkey (comma_not_mem hv)

theorem comma_not_mem_spaced (key : String) {v : String} (hkey : ',' ∉ key.toList) (hv : ',' ∉ v.toList) :
    (0x2C : UInt8) ∉ ofString (" " ++ fieldText key v) := by
  have hspace : ofString " " = [0x20] := by decide +kernel
  rw [ofString_append, hspace, List.singleton_append, List.mem_cons, not_or]
  exact ⟨by decide, comma_not_mem_field key hkey hv⟩

theorem groupText_trimBlank (ids : List Int) : (groupText ids).trimBlank = groupText ids := by
  apply ofString_injective
  rw [← trimBlank_ofString, ofString_groupText, trimBlank_of_visible_ends (by decide) (by decide)]

/-- The tag field of a record: its kind and its id group. -/
theorem splitPair_tag (key : String) (hkey : ':' ∉ key.toList) (hk : key.trimBlank = key)
    (ids : List Int) :
    splitPair (ofString (fieldText key (groupText ids))) =
      some (ofString key, ofString (groupText ids)) :=
  splitPair_field key hkey hk (groupText_trimBlank ids)

/-- A field after `, ` reads as its key and value. -/
theorem splitPair_spaced (key : String) {v : String} (hkey : ':' ∉ key.toList) (hk : key.trimBlank = key)
    (hv : v.trimBlank = v) :
    splitPair (ofString (" " ++ fieldText key v)) = some (ofString key, ofString v) := by
  rw [ofString_append, splitPair_blank_append (by simp [Text.isBlank]),
    splitPair_field key hkey hk hv]

theorem ofString_comma (a b : String) : ofString (a ++ "," ++ b) = ofString a ++ 0x2C :: ofString b := by
  have hcomma : ofString "," = [0x2C] := by decide +kernel
  rw [ofString_append, ofString_append, hcomma, List.append_assoc, List.singleton_append]

theorem ofString_commaSpace (a b : String) :
    ofString (a ++ ", " ++ b) = ofString a ++ 0x2C :: ofString (" " ++ b) := by
  have hsep : ofString ", " = [0x2C, 0x20] := by decide +kernel
  have hspace : ofString " " = [0x20] := by decide +kernel
  rw [ofString_append, ofString_append, ofString_append, hsep, hspace, List.append_assoc]
  rfl

end Bytes

/-! ### The fields of each kind of line -/

section Fields

open Bytes

theorem splitOn_node {i : Int} {r : String} (hr : ',' ∉ r.toList) (os : List String) :
    ∃ more, (ofString (Line.node i r os).text).splitOn 0x2C =
      ofString (fieldText "Node" (groupText [i])) :: ofString (fieldText "Name" r) :: more := by
  have hname := comma_not_mem_field "Name" (by decide) hr
  rw [Line.text, String.append_assoc, ofString_comma, ofString_append,
    List.splitOn_append_cons_self_of_not_mem (comma_not_mem_tag (by decide) _)]
  cases os with
  | nil =>
    refine ⟨[], ?_⟩
    have hnil : ofString (String.join (([] : List String).map ("," ++ ·))) = [] := by
      simp [ofString_eq_flatMap]
    rw [hnil, List.append_nil, List.splitOn_eq_singleton hname]
  | cons o os =>
    refine ⟨(ofString (o ++ String.join (os.map ("," ++ ·)))).splitOn 0x2C, ?_⟩
    have hcomma : ofString "," = [0x2C] := by decide +kernel
    have hothers : ofString (String.join ((o :: os).map ("," ++ ·))) =
        0x2C :: ofString (o ++ String.join (os.map ("," ++ ·))) := by
      rw [List.map_cons, String.join_cons, String.append_assoc, ofString_append, hcomma]
      rfl
    rw [hothers, List.splitOn_append_cons_self_of_not_mem hname]

theorem splitOn_vhost {i j k : Int} {a : String} (ha : ',' ∉ a.toList) :
    (ofString (Line.vhost i j k a).text).splitOn 0x2C =
      [ofString (fieldText "Vhost" (groupText [i, j, k])), ofString (" " ++ fieldText "Alias" a)] := by
  have halias := comma_not_mem_spaced "Alias" (by decide) ha
  rw [Line.text, ofString_commaSpace,
    List.splitOn_append_cons_self_of_not_mem (comma_not_mem_tag (by decide) _),
    List.splitOn_eq_singleton halias]

theorem splitOn_context {i j k : Int} {p w : String} (hp : ',' ∉ p.toList) (hw : ',' ∉ w.toList)
    (s : ContextStatus) :
    (ofString (Line.context i j k p s w).text).splitOn 0x2C =
      [ofString (fieldText "Context" (groupText [i, j, k])), ofString (" " ++ fieldText "Context" p),
        ofString (" " ++ fieldText "Status" w)] := by
  have hpath := comma_not_mem_spaced "Context" (by decide) hp
  have hstatus := comma_not_mem_spaced "Status" (by decide) hw
  rw [Line.text, ofString_commaSpace, ofString_commaSpace, List.append_assoc, List.cons_append,
    List.splitOn_append_cons_self_of_not_mem (comma_not_mem_tag (by decide) _),
    List.splitOn_append_cons_self_of_not_mem hpath, List.splitOn_eq_singleton hstatus]

end Fields

/-! ### Status words -/

section Status

open Bytes

theorem letter_of_toUpper {c : Char} (h : 0x41 ≤ c.toUpper.toNat ∧ c.toUpper.toNat ≤ 0x5A) :
    (0x41 ≤ c.toNat ∧ c.toNat ≤ 0x5A) ∨ (0x61 ≤ c.toNat ∧ c.toNat ≤ 0x7A) := by
  by_cases hl : 0x61 ≤ c.toNat ∧ c.toNat ≤ 0x7A
  · exact .inr hl
  · -- a character that is no lower-case letter upper-cases to itself
    have hsame : c.toUpper = c := by
      unfold Char.toUpper
      rw [dif_neg]
      simp only [UInt32.le_iff_toNat_le]
      exact hl
    rw [hsame] at h
    exact .inl h

theorem upper_of_mem_name (s : ContextStatus) :
    ∀ c ∈ s.name.toList, 0x41 ≤ c.toNat ∧ c.toNat ≤ 0x5A := by
  cases s <;> simp [ContextStatus.name]

theorem letter_of_spelling {w : String} {s : ContextStatus} (hw : w.toUpper = s.name) :
    ∀ c ∈ w.toList, (0x41 ≤ c.toNat ∧ c.toNat ≤ 0x5A) ∨ (0x61 ≤ c.toNat ∧ c.toNat ≤ 0x7A) := by
  have hmap : w.toList.map Char.toUpper = s.name.toList := by
    rw [← String.toList_map, ← hw]
    rfl
  intro c hc
  exact letter_of_toUpper (upper_of_mem_name s _ (hmap ▸ List.mem_map_of_mem hc))

theorem exists_char_of_mem_ofString {w : String} (hw : ∀ c ∈ w.toList, c.toNat < 0x80) {x : UInt8}
    (hx : x ∈ ofString w) : ∃ c ∈ w.toList, x.toNat = c.toNat := by
  rw [ofString_eq_flatMap, List.mem_flatMap] at hx
  obtain ⟨c, hc, hxc⟩ := hx
  have hascii := hw c hc
  have hsize : c.utf8Size = 1 :=
    Char.utf8Size_eq_one_iff.mpr (UInt32.le_iff_toNat_le.mpr (by
      change c.toNat ≤ 127
      omega))
  rw [String.utf8EncodeChar_eq_singleton hsize, List.mem_singleton] at hxc
  subst hxc
  refine ⟨c, hc, ?_⟩
  change c.toNat % 256 = c.toNat
  omega

variable {w : String} {s : ContextStatus} (hw : w.toUpper = s.name)
include hw

theorem trimBlank_spelling : w.trimBlank = w := by
  have hletters := letter_of_spelling hw
  apply ofString_injective
  rw [← trimBlank_ofString]
  refine trimBlank_visible fun x hx => ?_
  obtain ⟨c, hc, hxc⟩ := exists_char_of_mem_ofString
    (fun c hc => by have := hletters c hc; omega) hx
  have := hletters c hc
  omega

theorem comma_not_mem_spelling : ',' ∉ w.toList := fun h => by
  have := letter_of_spelling hw ',' h
  revert this
  decide

theorem upperIs_spelling (t : String) :
    (ofString w).upperIs t = (s.name.toList.map some == t.toList.map some) := by
  have hmap : w.toList.map Char.toUpper = s.name.toList := by
    rw [← String.toList_map, ← hw]
    rfl
  have hletters := letter_of_spelling hw
  have hpieces : (pieces (ofString w)).map Text.Piece.upperAscii? = s.name.toList.map some := by
    rw [pieces_ofString, List.map_map, ← hmap, List.map_map]
    refine List.map_congr_left fun c hc => ?_
    have := hletters c hc
    simp [Text.Piece.upperAscii?, show c.toNat < 0x80 by omega]
  rw [upperIs, hpieces]

theorem parse?_spelling : ContextStatus.parse? (ofString w) = some s := by
  simp only [ContextStatus.parse?, trimBlank_ofString, trimBlank_spelling hw, upperIs_spelling hw]
  cases s <;> decide

end Status

/-! ### Reading each kind of line -/

section Read

open Bytes

variable (n : Nat) (st : Reading)

theorem readLine_node {i : Int} {r : String} (hi : Fits i) (hr : Field r) (os : List String) :
    readLine n st (ofString (Line.node i r os).text) =
      .ok ({ st with routes := (i, ofString r) :: st.routes }.touch (ofString r)) := by
  obtain ⟨more, hsplit⟩ := splitOn_node (i := i) hr.1 os
  have hname : lookupField (ofString (fieldText "Name" r) :: more) "Name" = some (ofString r) := by
    simp [lookupField, splitPair_field "Name" (by decide) (by decide) hr.2.2]
  have hids : parseIds (ofString (groupText [i])) = some [i] :=
    parseIds_groupText (by simp) fun z hz => by rw [List.mem_singleton.1 hz]; exact hi
  simp only [readLine, hsplit, splitPair_tag "Node" (by decide) (by decide), hids, hname,
    beq_self_eq_true, ↓reduceIte, Option.elim]
  rfl

theorem fits_three {i j k : Int} (hi : Fits i) (hj : Fits j) (hk : Fits k) :
    ∀ z ∈ [i, j, k], -2 ^ 63 ≤ z ∧ z < 2 ^ 63 := by
  intro z hz
  simp only [List.mem_cons, List.not_mem_nil, or_false] at hz
  rcases hz with rfl | rfl | rfl
  · exact hi
  · exact hj
  · exact hk

section Vhost

variable {i j k : Int} {a : String} (hi : Fits i) (hj : Fits j) (hk : Fits k) (ha : Field a)
  {route : Bytes} (hroute : st.routes.lookup i = some route)
include hi hj hk ha hroute

/-- A `Vhost` line of a virtual host already open adds its alias, unless it is empty. -/
theorem readLine_vhost_known {place : Bytes × Nat} (hplace : st.hosts.lookup (i, j) = some place) :
    readLine n st (ofString (Line.vhost i j k a).text) =
      .ok (if a = "" then st else st.modifyHost place.1 place.2 (·.addAlias (ofString a))) := by
  have hids : parseIds (ofString (groupText [i, j, k])) = some [i, j, k] :=
    parseIds_groupText (by simp) (fits_three hi hj hk)
  have hnode : (ofString "Vhost" == ofString "Node") = false := by decide +kernel
  simp only [readLine, splitOn_vhost ha.1, splitPair_tag "Vhost" (by decide) (by decide),
    hids, hnode, beq_self_eq_true, Bool.false_eq_true, ↓reduceIte, Option.elim, hroute, hplace,
    lookupField, List.findSome?_singleton,
    splitPair_spaced "Alias" (by decide) (by decide) ha.2.2, List.isEmpty_iff,
    ofString_eq_nil_iff, bind, Except.bind]
  split <;> rfl

/-- The first `Vhost` line of a virtual host opens it, empty, after the others of its route, then
adds its alias unless it is empty. -/
theorem readLine_vhost_new (hnew : st.hosts.lookup (i, j) = none)
    (hlisted : st.inv.nodes.any (·.1 == route) = true) :
    readLine n st (ofString (Line.vhost i j k a).text) =
      .ok (let len := (st.inv.vhostsOf route).length
        let opened : Reading :=
          { st with
            inv := ⟨st.inv.nodes.map fun (q, vs) => if q == route then (q, vs ++ [{}]) else (q, vs)⟩
            hosts := ((i, j), (route, len)) :: st.hosts }
        if a = "" then opened else opened.modifyHost route len (·.addAlias (ofString a))) := by
  have hids : parseIds (ofString (groupText [i, j, k])) = some [i, j, k] :=
    parseIds_groupText (by simp) (fits_three hi hj hk)
  have hnode : (ofString "Vhost" == ofString "Node") = false := by decide +kernel
  have htouch : st.touch route = st := by simp [Reading.touch, hlisted]
  simp only [readLine, splitOn_vhost ha.1, splitPair_tag "Vhost" (by decide) (by decide),
    hids, hnode, beq_self_eq_true, Bool.false_eq_true, ↓reduceIte, Option.elim, hroute, hnew,
    lookupField, List.findSome?_singleton,
    splitPair_spaced "Alias" (by decide) (by decide) ha.2.2, List.isEmpty_iff,
    ofString_eq_nil_iff, bind, Except.bind, htouch]
  split <;> rfl

end Vhost

/-- A `Context` line of an open virtual host sets the status of the normal form of its path. -/
theorem readLine_context {i j k : Int} {p w : String} {s : ContextStatus} (hi : Fits i)
    (hj : Fits j) (hk : Fits k) (hp : Field p) (hw : w.toUpper = s.name) {route : Bytes}
    (hroute : st.routes.lookup i = some route) {place : Bytes × Nat}
    (hplace : st.hosts.lookup (i, j) = some place) :
    readLine n st (ofString (Line.context i j k p s w).text) =
      .ok (st.modifyHost place.1 place.2 (·.setStatus (ofString (normalizePath p)) s)) := by
  have hids : parseIds (ofString (groupText [i, j, k])) = some [i, j, k] :=
    parseIds_groupText (by simp) (fits_three hi hj hk)
  have hnode : (ofString "Context" == ofString "Node") = false := by decide +kernel
  have hvhost : (ofString "Context" == ofString "Vhost") = false := by decide +kernel
  have hkeys : (ofString "Context" == ofString "Status") = false := by decide +kernel
  simp only [readLine, splitOn_context hp.1 (comma_not_mem_spelling hw) s,
    splitPair_tag "Context" (by decide) (by decide), hids, hnode, hvhost,
    beq_self_eq_true, Bool.false_eq_true, ↓reduceIte, Option.elim, hroute, hplace, lookupField,
    List.findSome?_cons, splitPair_spaced "Context" (by decide) (by decide) hp.2.2,
    splitPair_spaced "Status" (by decide) (by decide) (trimBlank_spelling hw), hkeys,
    parse?_spelling hw, normalizePath_ofString, bind, Except.bind]
  rfl

end Read

/-! ### Rows of an answer -/

section Rows

open Bytes

/-- One row of an answer read onto a reading: a row of white space is skipped, any other row is
trimmed and read as a line, counted from 1. -/
def readRow (st : Reading) (row : Bytes × Nat) : Except InfoError Reading :=
  if (Bytes.trimBlank row.1).isEmpty then .ok st else readLine (row.2 + 1) st (Bytes.trimBlank row.1)

theorem parse_eq_foldlM (text : Bytes) :
    parse text = (((text.splitOn 0x0A).zipIdx).foldlM readRow {}).map (·.inv) := rfl

theorem trimBlank_eq_empty {s : String} (hs : ∀ c ∈ s.toList, Text.isBlank c = true) :
    s.trimBlank = "" := by
  have hdrop : s.toList.dropWhile Text.isBlank = [] := List.dropWhile_eq_nil_iff.2 hs
  simp only [String.trimBlank, hdrop, List.reverse_nil, List.dropWhile_nil]

theorem blank_of_trimBlank_eq_empty {s : String} (hs : s.trimBlank = "") :
    ∀ c ∈ s.toList, Text.isBlank c = true := by
  have hnil : ((s.toList.dropWhile Text.isBlank).reverse.dropWhile Text.isBlank).reverse = [] := by
    simpa [String.trimBlank, ← String.toList_inj] using hs
  rw [List.reverse_eq_nil_iff, List.dropWhile_eq_nil_iff] at hnil
  cases hd : s.toList.dropWhile Text.isBlank with
  | nil => exact List.dropWhile_eq_nil_iff.1 hd
  | cons y ys =>
    have hy := List.head_dropWhile_not (l := s.toList) Text.isBlank (by simp [hd])
    simp only [hd, List.head_cons] at hy
    exact absurd (hnil y (by simp [hd])) (by simp [hy])

theorem trimBlank_ne_nil {x : UInt8} (hx : 0x21 ≤ x.toNat ∧ x.toNat ≤ 0x7E) (rest : Bytes) :
    Bytes.trimBlank (x :: rest) ≠ [] := by
  have hkept : ((pieces (x :: rest)).dropWhile Text.Piece.isBlank).rdropWhile Text.Piece.isBlank ≠ [] := by
    rw [pieces_cons_ascii (by omega), List.dropWhile_cons_of_neg (by simp [isBlank_visible hx.1 hx.2])]
    intro h
    have := List.rdropWhile_eq_nil_iff.1 h _ List.mem_cons_self
    simp [isBlank_visible hx.1 hx.2] at this
  obtain ⟨q, qs, hq⟩ := List.exists_cons_of_ne_nil hkept
  rw [trimBlank_eq, hq, ofPieces_cons]
  cases q with
  | char c => simp [Piece.bytes_char, String.utf8EncodeChar_ne_nil]
  | stray b => simp [Piece.bytes]

theorem ofString_text_cons {l : Line} (hl : l.IsRecord) :
    ∃ x rest, ofString l.text = x :: rest ∧ 0x21 ≤ x.toNat ∧ x.toNat ≤ 0x7E := by
  have hnode : ofString "Node" = [0x4E, 0x6F, 0x64, 0x65] := by decide +kernel
  have hvhost : ofString "Vhost" = [0x56, 0x68, 0x6F, 0x73, 0x74] := by decide +kernel
  have hcontext : ofString "Context" = [0x43, 0x6F, 0x6E, 0x74, 0x65, 0x78, 0x74] := by
    decide +kernel
  cases l with
  | node i r os =>
    simp only [Line.text, fieldText, ofString_append, hnode]
    exact ⟨_, _, rfl, by decide, by decide⟩
  | vhost i j k a =>
    simp only [Line.text, fieldText, ofString_append, hvhost]
    exact ⟨_, _, rfl, by decide, by decide⟩
  | context i j k p s w =>
    simp only [Line.text, fieldText, ofString_append, hcontext]
    exact ⟨_, _, rfl, by decide, by decide⟩
  | blank w => exact absurd hl id

theorem readRow_record (st : Reading) {l : Line} (hl : l.IsRecord) (cr : Bool) (m : Nat) :
    readRow st (ofString (rowText (l, cr)), m) = readLine (m + 1) st (ofString l.text) := by
  have hcr : ∀ c ∈ (if cr then "\r" else "").toList, Text.isBlank c = true := by
    cases cr <;> simp [Text.isBlank]
  obtain ⟨x, rest, hx, hvisible⟩ := ofString_text_cons hl
  have hkept : (Bytes.trimBlank (ofString (rowText (l, cr)))).isEmpty = false := by
    rw [rowText, ofString_append, trimBlank_append_blank hcr, hx]
    simpa using trimBlank_ne_nil hvisible rest
  have hpad := readLine_pad (L := "") (by simp) hcr (m + 1) st (ofString l.text)
  rw [ofString_eq_nil_iff.2 rfl, List.nil_append] at hpad
  simp only [readRow]
  rw [hkept, if_neg Bool.false_ne_true, trimBlank_ofString, readLine_trimBlank, rowText,
    ofString_append, hpad]

theorem readRow_blank (st : Reading) {w : String} (hw : w.trimBlank = "") (cr : Bool) (m : Nat) :
    readRow st (ofString (rowText (.blank w, cr)), m) = .ok st := by
  have hcr : ∀ c ∈ (if cr then "\r" else "").toList, Text.isBlank c = true := by
    cases cr <;> simp [Text.isBlank]
  have hempty : (w ++ if cr then "\r" else "").trimBlank = "" := by
    apply trimBlank_eq_empty
    simp only [String.toList_append, List.mem_append]
    rintro c (hc | hc)
    · exact blank_of_trimBlank_eq_empty hw c hc
    · exact hcr c hc
  have hnil : (Bytes.trimBlank (ofString (rowText (.blank w, cr)))).isEmpty = true := by
    rw [rowText, Line.text, trimBlank_ofString, hempty, ofString_eq_nil_iff.2 rfl]
    rfl
  rw [readRow, hnil, if_pos rfl]

theorem newline_not_mem_groupText (ids : List Int) : '\n' ∉ (groupText ids).toList := fun h =>
  not_mem_groupText (y := 0x0A) (by decide) (by decide) ids ((mem_ofString_ascii (by decide) _).2 h)

theorem newline_not_mem_text {l : Line} (hl : l.Proper) : '\n' ∉ l.text.toList := by
  cases l with
  | node i r os =>
    simpa [Line.text, fieldText, newline_not_mem_groupText, hl.2.1.2.1] using hl.2.2
  | vhost i j k a =>
    simp [Line.text, fieldText, newline_not_mem_groupText, hl.2.2.2.2.1]
  | context i j k p s w =>
    have hw : '\n' ∉ w.toList := fun h => by
      have := letter_of_spelling hl.2.2.2.2 _ h
      revert this
      decide
    simp [Line.text, fieldText, newline_not_mem_groupText, hl.2.2.2.1.2.1, hw]
  | blank w => exact hl.1

theorem splitOn_answer {ls : List (Line × Bool)} (hne : ls ≠ []) (hls : ∀ x ∈ ls, x.1.Proper) :
    (ofString (answer ls)).splitOn 0x0A = ls.map fun x => ofString (rowText x) := by
  have hnewline : ofString "\n" = [0x0A] := by decide +kernel
  have hrows : ∀ row ∈ ls.map (fun x => ofString (rowText x)), (0x0A : UInt8) ∉ row := by
    simp only [List.mem_map]
    rintro _ ⟨x, hx, rfl⟩ hmem
    rw [mem_ofString_ascii (by decide), rowText, String.toList_append, List.mem_append] at hmem
    refine hmem.elim (newline_not_mem_text (hls x hx)) ?_
    cases x.2 <;> decide
  rw [answer, ofString_intercalate, hnewline, List.map_map]
  exact List.splitOn_intercalate _ (by simpa using hrows) (by simpa using hne)

end Rows

end Info

end ClusterAgent
