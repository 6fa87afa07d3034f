import ClusterAgent.Proofs.InfoLines

/-!
# Reading a whole `INFO` answer

What the reader holds after some lines depends on those lines alone (`Info.soFar`). It holds the
routes of the `Node` lines in their order. For each route it holds the virtual hosts in the order
of their first `Vhost` line, each with its non-empty aliases once and the statuses of its paths.
The invariant `Info.Tracks` ties a reading to the lines read so far. Each kind of line keeps it
(`Info.readRow_tracks`), so by induction over the lines it holds after every answer in which each
line comes after what it refers to (`Info.parse_answer`).
-/

namespace ClusterAgent

/-! ### The reader's own changes -/

namespace Inventory.Reading

@[simp] theorem touch_routes (r : Reading) (route : Bytes) : (r.touch route).routes = r.routes := by
  unfold touch
  split <;> rfl

@[simp] theorem touch_hosts (r : Reading) (route : Bytes) : (r.touch route).hosts = r.hosts := by
  unfold touch
  split <;> rfl

theorem touch_inv_of_new {r : Reading} {route : Bytes} (h : r.inv.nodes.any (·.1 == route) = false) :
    (r.touch route).inv = ⟨r.inv.nodes ++ [(route, [])]⟩ := by
  simp [touch, h]

@[simp] theorem modifyHost_routes (r : Reading) (route : Bytes) (n : Nat) (f : VirtualHost → VirtualHost) :
    (r.modifyHost route n f).routes = r.routes := rfl

@[simp] theorem modifyHost_hosts (r : Reading) (route : Bytes) (n : Nat) (f : VirtualHost → VirtualHost) :
    (r.modifyHost route n f).hosts = r.hosts := rfl

end Inventory.Reading

namespace Info

open Inventory Bytes

/-! ### Lists without repeats -/

section Lists

variable {α : Type} [BEq α] [LawfulBEq α]

theorem eraseDups_concat (l : List α) (a : α) :
    (l ++ [a]).eraseDups = if a ∈ l then l.eraseDups else l.eraseDups ++ [a] := by
  rw [List.eraseDups_append]
  by_cases h : a ∈ l
  · simp [h, List.removeAll]
  · simp [h, List.removeAll, List.eraseDups_cons]

theorem nodup_eraseDups (l : List α) : l.eraseDups.Nodup := by
  induction l using List.reverseRecOn with
  | nil => exact List.nodup_nil
  | append_singleton l a ih =>
    rw [eraseDups_concat]
    split
    · exact ih
    · rename_i h
      exact ih.append (List.nodup_singleton a) (by simpa using h)

theorem eraseDups_of_nodup {l : List α} (h : l.Nodup) : l.eraseDups = l := by
  induction l using List.reverseRecOn with
  | nil => rfl
  | append_singleton l a ih =>
    obtain ⟨hl, ha⟩ : l.Nodup ∧ ∀ b ∈ l, b ≠ a := by simpa [List.nodup_append] using h
    rw [eraseDups_concat, if_neg fun h => ha a h rfl, ih hl]

end Lists

section Keys

variable {α β : Type} [BEq α] [LawfulBEq α]

theorem lookup_of_mem {l : List (α × β)} (hl : (l.map Prod.fst).Nodup) {a : α} {b : β}
    (h : (a, b) ∈ l) : l.lookup a = some b := by
  induction l with
  | nil => simp at h
  | cons p l ih =>
    obtain ⟨k, v⟩ := p
    rw [List.map_cons, List.nodup_cons] at hl
    rcases List.mem_cons.1 h with hhead | hmem
    · obtain ⟨rfl, rfl⟩ := Prod.mk.inj hhead
      simp
    · have hne : a ≠ k := fun he => hl.1 (List.mem_map.2 ⟨(a, b), hmem, he⟩)
      rw [List.lookup_cons, beq_false_of_ne hne]
      exact ih hl.2 hmem

theorem lookup_of_not_mem {l : List (α × β)} {a : α} (h : a ∉ l.map Prod.fst) :
    l.lookup a = none :=
  List.lookup_eq_none_iff.2 fun p hp => bne_iff_ne.2 fun he => h (List.mem_map.2 ⟨p, hp, he.symm⟩)

theorem lookup_append_of_mem {l m : List (α × β)} {a : α} (h : a ∈ l.map Prod.fst) :
    (l ++ m).lookup a = l.lookup a := by
  obtain ⟨p, hp, rfl⟩ := List.mem_map.1 h
  have : (l.lookup p.1).isSome := List.lookup_isSome_iff.2 ⟨p, hp, by simp⟩
  rw [List.lookup_append]
  cases hl : l.lookup p.1 with
  | none => simp [hl] at this
  | some b => rfl

/-- Changing the entry of one key of a list of distinct keys is changing its place. -/
theorem map_eq_modify_idxOf {γ : Type} {l : List α} (hl : l.Nodup) {x : α} (hx : x ∈ l)
    {f g : α → γ} {h : γ → γ} (hgx : g x = h (f x)) (hother : ∀ y ∈ l, y ≠ x → g y = f y) :
    l.map g = (l.map f).modify (l.idxOf x) h := by
  induction l with
  | nil => simp at hx
  | cons y l ih =>
    rw [List.nodup_cons] at hl
    by_cases hy : y = x
    · subst hy
      have hrest : l.map g = l.map f := List.map_congr_left fun z hz =>
        hother z (List.mem_cons_of_mem _ hz) (fun he => hl.1 (he ▸ hz))
      simp [hgx, hrest]
    · have hx' : x ∈ l := (List.mem_cons.1 hx).resolve_left (Ne.symm hy)
      rw [List.idxOf_cons, beq_false_of_ne hy, cond_false, List.map_cons, List.map_cons,
        List.modify_succ_cons, hother y List.mem_cons_self hy,
        ih hl.2 hx' fun z hz => hother z (List.mem_cons_of_mem _ hz)]

end Keys

/-! ### What lines give -/

/-- What a record line states, without the choices of its writing. -/
inductive Record where
  /-- Node `id` has route `name`. -/
  | node (id : Int) (name : String)
  /-- Virtual host `vhost` of node `node` has alias `hostAlias`. -/
  | hostAlias (node vhost : Int) (hostAlias : String)
  /-- Path `path` of virtual host `vhost` of node `node` has status `status`. -/
  | context (node vhost : Int) (path : String) (status : ContextStatus)
  deriving DecidableEq, Repr

namespace Record

/-- The id and route a node record names. -/
def node? : Record → Option (Int × String)
  | node i r => some (i, r)
  | _ => none

/-- The virtual host of node `i` an alias record names. -/
def vhostOf? (i : Int) : Record → Option Int
  | hostAlias i' j _ => if i' = i then some j else none
  | _ => none

/-- The alias a record gives virtual host `j` of node `i`. -/
def aliasOf? (i j : Int) : Record → Option String
  | hostAlias i' j' a => if i' = i ∧ j' = j then some a else none
  | _ => none

/-- The path and status a record gives virtual host `j` of node `i`. -/
def contextOf? (i j : Int) : Record → Option (String × ContextStatus)
  | context i' j' p s => if i' = i ∧ j' = j then some (p, s) else none
  | _ => none

end Record

namespace Line

/-- What a line states; a blank line states nothing. -/
def record? : Line → Option Record
  | node i r _ => some (.node i r)
  | vhost i j _ a => some (.hostAlias i j a)
  | context i j _ p s _ => some (.context i j p s)
  | blank _ => none

def node? (l : Line) : Option (Int × String) := l.record?.bind Record.node?

def vhostOf? (i : Int) (l : Line) : Option Int := l.record?.bind (Record.vhostOf? i)

def aliasOf? (i j : Int) (l : Line) : Option String := l.record?.bind (Record.aliasOf? i j)

def contextOf? (i j : Int) (l : Line) : Option (String × ContextStatus) :=
  l.record?.bind (Record.contextOf? i j)

@[simp] theorem node?_node (i : Int) (r : String) (os : List String) :
    (node i r os).node? = some (i, r) := rfl

@[simp] theorem vhostOf?_vhost (i i' j k : Int) (a : String) :
    (vhost i' j k a).vhostOf? i = if i' = i then some j else none := rfl

@[simp] theorem aliasOf?_vhost (i j i' j' k : Int) (a : String) :
    (vhost i' j' k a).aliasOf? i j = if i' = i ∧ j' = j then some a else none := rfl

@[simp] theorem contextOf?_context (i j i' j' k : Int) (p : String) (s : ContextStatus) (w : String) :
    (context i' j' k p s w).contextOf? i j = if i' = i ∧ j' = j then some (p, s) else none := rfl

/-- A line comes after what it refers to: a `Vhost` line after the `Node` line of its node, a
`Context` line after a `Vhost` line of its virtual host. -/
def Ready (P : List Line) : Line → Prop
  | vhost i _ _ _ => ∃ l ∈ P, l.node?.map Prod.fst = some i
  | context i j _ _ _ _ => ∃ l ∈ P, l.vhostOf? i = some j
  | _ => True

theorem vhostOf?_of_aliasOf? {l : Line} {i j : Int} {a : String} (h : l.aliasOf? i j = some a) :
    l.vhostOf? i = some j := by
  cases l with
  | vhost i' j' k a' =>
    simp only [aliasOf?_vhost, Option.ite_none_right_eq_some] at h
    obtain ⟨⟨rfl, rfl⟩, -⟩ := h
    simp
  | _ => cases h

end Line

/-- The ids and routes the `Node` lines name, in order. -/
def named (P : List Line) : List (Int × String) := P.filterMap Line.node?

/-- The virtual hosts of node `i`, in the order of their first `Vhost` line. -/
def vhostOrder (P : List Line) (i : Int) : List Int := (P.filterMap (·.vhostOf? i)).eraseDups

/-- Virtual host `j` of node `i` as lines give it: its non-empty aliases, each once in the order
first given, and the normal form of each path with its status. -/
def hostSoFar (P : List Line) (i j : Int) : VirtualHost where
  aliases := (((P.filterMap (·.aliasOf? i j)).filter (· ≠ "")).map ofString).eraseDups
  contexts := (P.filterMap (·.contextOf? i j)).map fun c => (ofString (normalizePath c.1), c.2)

/-- The inventory lines give. -/
def soFar (P : List Line) : Inventory :=
  ⟨(named P).map fun x => (ofString x.2, (vhostOrder P x.1).map (hostSoFar P x.1))⟩

/-- Lines that name each node id and each route once, and each normal path once per virtual
host. -/
structure Distinct (P : List Line) : Prop where
  ids : ((named P).map Prod.fst).Nodup
  names : ((named P).map Prod.snd).Nodup
  paths : ∀ i j, ((P.filterMap (·.contextOf? i j)).map fun c => normalizePath c.1).Nodup

/-- Each line comes after what it refers to. -/
def Ordered (P : List Line) : Prop := ∀ A l B, P = A ++ l :: B → l.Ready A

/-- A reading holds what lines give: their inventory, the route of each node id, and where each
virtual host is kept. -/
structure Tracks (P : List Line) (st : Reading) : Prop where
  inv : st.inv = soFar P
  routes : ∀ i, st.routes.lookup i = ((named P).lookup i).map ofString
  hosts : ∀ i j, st.hosts.lookup (i, j) =
    if j ∈ vhostOrder P i then
      ((named P).lookup i).map fun r => (ofString r, (vhostOrder P i).idxOf j)
    else none

theorem tracks_empty : Tracks [] {} where
  inv := rfl
  routes _ := rfl
  hosts _ _ := by simp [vhostOrder]

/-- A reading tracks lines that give what other lines give. -/
theorem Tracks.congr {P Q : List Line} {st : Reading} (ht : Tracks P st)
    (hnamed : named Q = named P) (horder : ∀ i, vhostOrder Q i = vhostOrder P i)
    (hhost : ∀ i j, hostSoFar Q i j = hostSoFar P i j) : Tracks Q st where
  inv := by
    have hfun : hostSoFar Q = hostSoFar P := funext fun i => funext (hhost i)
    rw [ht.inv, soFar, soFar, hnamed, hfun, funext horder]
  routes i := by rw [ht.routes, hnamed]
  hosts i j := by rw [ht.hosts, hnamed, horder]

/-! ### Facts of lines read in order -/

section Ordered

variable {P : List Line}

theorem Distinct.of_append {Q : List Line} (hd : Distinct (P ++ Q)) : Distinct P where
  ids := by
    have := hd.ids
    simp only [named, List.filterMap_append, List.map_append] at this
    exact this.of_append_left
  names := by
    have := hd.names
    simp only [named, List.filterMap_append, List.map_append] at this
    exact this.of_append_left
  paths i j := by
    have := hd.paths i j
    simp only [List.filterMap_append, List.map_append] at this
    exact this.of_append_left

theorem Ordered.of_append {Q : List Line} (ho : Ordered (P ++ Q)) : Ordered P :=
  fun A l B h => ho A l (B ++ Q) (by rw [h, List.append_assoc, List.cons_append])

theorem Ordered.ready {l : Line} (ho : Ordered (P ++ [l])) : l.Ready P :=
  ho P l [] rfl

theorem Ordered.named_of_vhost (ho : Ordered P) {l : Line} (hl : l ∈ P) {i j : Int}
    (hj : l.vhostOf? i = some j) : i ∈ (named P).map Prod.fst := by
  obtain ⟨A, B, rfl⟩ := List.append_of_mem hl
  have hready := ho A l B rfl
  cases l with
  | vhost i' j' k a =>
    simp only [Line.vhostOf?_vhost, Option.ite_none_right_eq_some] at hj
    obtain ⟨rfl, -⟩ := hj
    obtain ⟨l', hl', hnode⟩ := hready
    obtain ⟨x, hx, hxi⟩ := Option.map_eq_some_iff.1 hnode
    exact List.mem_map.2 ⟨x, List.mem_filterMap.2 ⟨l', by simp [hl'], hx⟩, hxi⟩
  | _ => cases hj

theorem Ordered.vhost_of_context (ho : Ordered P) {l : Line} (hl : l ∈ P) {i j : Int}
    {c : String × ContextStatus} (hc : l.contextOf? i j = some c) : j ∈ vhostOrder P i := by
  obtain ⟨A, B, rfl⟩ := List.append_of_mem hl
  have hready := ho A l B rfl
  cases l with
  | context i' j' k p s w =>
    simp only [Line.contextOf?_context, Option.ite_none_right_eq_some] at hc
    obtain ⟨⟨rfl, rfl⟩, -⟩ := hc
    obtain ⟨l', hl', hvhost⟩ := hready
    rw [vhostOrder, List.mem_eraseDups]
    exact List.mem_filterMap.2 ⟨l', by simp [hl'], hvhost⟩
  | _ => cases hc

theorem hostSoFar_of_not_mem (ho : Ordered P) {i j : Int} (hj : j ∉ vhostOrder P i) :
    hostSoFar P i j = {} := by
  have haliases : P.filterMap (·.aliasOf? i j) = [] := by
    refine List.filterMap_eq_nil_iff.2 fun l hl => ?_
    cases ha : l.aliasOf? i j with
    | none => rfl
    | some a =>
      refine absurd ?_ hj
      rw [vhostOrder, List.mem_eraseDups]
      exact List.mem_filterMap.2 ⟨l, hl, Line.vhostOf?_of_aliasOf? ha⟩
  have hcontexts : P.filterMap (·.contextOf? i j) = [] := by
    refine List.filterMap_eq_nil_iff.2 fun l hl => ?_
    cases hc : l.contextOf? i j with
    | none => rfl
    | some c => exact absurd (ho.vhost_of_context hl hc) hj
  simp [hostSoFar, haliases, hcontexts]

theorem Ordered.named_of_mem_vhostOrder (ho : Ordered P) {i j : Int} (hj : j ∈ vhostOrder P i) :
    i ∈ (named P).map Prod.fst := by
  rw [vhostOrder, List.mem_eraseDups, List.mem_filterMap] at hj
  obtain ⟨l, hl, hj⟩ := hj
  exact ho.named_of_vhost hl hj

end Ordered

/-! ### Appending one line -/

section Append

variable (P : List Line) {l : Line}

theorem named_append (l : Line) : named (P ++ [l]) = named P ++ l.node?.toList := by
  cases h : l.node? <;> simp [named, h]

theorem named_append_of_none (h : l.node? = none) : named (P ++ [l]) = named P := by
  simp [named_append, h]

theorem vhostOrder_append_of_none {i : Int} (h : l.vhostOf? i = none) :
    vhostOrder (P ++ [l]) i = vhostOrder P i := by
  simp [vhostOrder, h]

theorem vhostOrder_append_of_some {i j : Int} (h : l.vhostOf? i = some j) :
    vhostOrder (P ++ [l]) i = if j ∈ vhostOrder P i then vhostOrder P i else vhostOrder P i ++ [j] := by
  simp [vhostOrder, h, eraseDups_concat]

theorem hostSoFar_append_of_none {i j : Int} (ha : l.aliasOf? i j = none)
    (hc : l.contextOf? i j = none) : hostSoFar (P ++ [l]) i j = hostSoFar P i j := by
  simp [hostSoFar, ha, hc]

/-- A `Vhost` line adds its alias, unless it is empty or known. -/
theorem hostSoFar_append_alias {i j : Int} {a : String} (ha : l.aliasOf? i j = some a)
    (hc : l.contextOf? i j = none) :
    hostSoFar (P ++ [l]) i j = if a = "" then hostSoFar P i j else (hostSoFar P i j).addAlias (ofString a) := by
  have haliases : (P ++ [l]).filterMap (·.aliasOf? i j) = P.filterMap (·.aliasOf? i j) ++ [a] := by
    simp [ha]
  have hcontexts : (P ++ [l]).filterMap (·.contextOf? i j) = P.filterMap (·.contextOf? i j) := by
    simp [hc]
  by_cases hne : a = ""
  · simp [hostSoFar, haliases, hcontexts, hne]
  · have hkept : (P.filterMap (·.aliasOf? i j) ++ [a]).filter (· ≠ "") =
        (P.filterMap (·.aliasOf? i j)).filter (· ≠ "") ++ [a] := by
      simp [hne]
    simp only [hostSoFar, VirtualHost.addAlias, haliases, hcontexts, hkept, List.map_append,
      List.map_singleton, eraseDups_concat, List.contains_iff_mem, List.mem_eraseDups, hne,
      if_false]
    split <;> rfl

/-- A `Context` line adds the normal form of its path with its status. -/
theorem hostSoFar_append_context {i j : Int} {c : String × ContextStatus}
    (ha : l.aliasOf? i j = none) (hc : l.contextOf? i j = some c) :
    hostSoFar (P ++ [l]) i j =
      { hostSoFar P i j with
        contexts := (hostSoFar P i j).contexts ++ [(ofString (normalizePath c.1), c.2)] } := by
  simp [hostSoFar, ha, hc]

theorem hostSoFar_append_vhost_of_ne {i j i' j' k : Int} {a : String} (hne : (i', j') ≠ (i, j)) :
    hostSoFar (P ++ [.vhost i j k a]) i' j' = hostSoFar P i' j' := by
  refine hostSoFar_append_of_none P ?_ rfl
  simp only [Line.aliasOf?_vhost]
  rw [if_neg]
  rintro ⟨rfl, rfl⟩
  exact hne rfl

theorem hostSoFar_append_context_of_ne {i j i' j' k : Int} {p w : String} {s : ContextStatus}
    (hne : (i', j') ≠ (i, j)) :
    hostSoFar (P ++ [.context i j k p s w]) i' j' = hostSoFar P i' j' := by
  refine hostSoFar_append_of_none P rfl ?_
  simp only [Line.contextOf?_context]
  rw [if_neg]
  rintro ⟨rfl, rfl⟩
  exact hne rfl

/-- A `Vhost` line puts its virtual host last among its node's only when none came before. -/
theorem vhostOrder_append_vhost {i j k : Int} {a : String} (i' : Int) :
    vhostOrder (P ++ [.vhost i j k a]) i' =
      if i' = i ∧ j ∉ vhostOrder P i then vhostOrder P i ++ [j] else vhostOrder P i' := by
  by_cases hi : i' = i
  · rw [hi, vhostOrder_append_of_some P (j := j) (by simp)]
    by_cases hj : j ∈ vhostOrder P i <;> simp [hj]
  · rw [vhostOrder_append_of_none P (by simp [Ne.symm hi]), if_neg fun h => hi h.1]

/-- A `Vhost` line adds its alias to its own virtual host, unless it is empty or known. -/
theorem hostSoFar_append_vhost {i j k : Int} {a : String} :
    hostSoFar (P ++ [.vhost i j k a]) i j =
      if a = "" then hostSoFar P i j else (hostSoFar P i j).addAlias (ofString a) :=
  hostSoFar_append_alias P (l := .vhost i j k a) (by simp) rfl

theorem hostSoFar_append_vhost_empty {i j k : Int} :
    hostSoFar (P ++ [.vhost i j k ""]) = hostSoFar P := by
  funext i' j'
  by_cases h : (i', j') = (i, j)
  · obtain ⟨rfl, rfl⟩ := Prod.mk.inj h
    rw [hostSoFar_append_vhost, if_pos rfl]
  · exact hostSoFar_append_vhost_of_ne P h

end Append

/-! ### Where the reader keeps a node's virtual hosts -/

section Route

variable {P Q : List Line}

theorem routes_soFar (P : List Line) :
    (soFar P).nodes.map Prod.fst = ((named P).map Prod.snd).map ofString := by
  simp [soFar, Function.comp_def]

theorem vhostsOf_soFar (hnames : ((named P).map Prod.snd).Nodup) {i : Int} {r : String}
    (hr : (i, r) ∈ named P) : (soFar P).vhostsOf (ofString r) = (vhostOrder P i).map (hostSoFar P i) := by
  have hmem : (ofString r, (vhostOrder P i).map (hostSoFar P i)) ∈ (soFar P).nodes :=
    List.mem_map.2 ⟨(i, r), hr, rfl⟩
  have hkeys : ((soFar P).nodes.map Prod.fst).Nodup := by
    rw [routes_soFar]
    exact hnames.map ofString_injective
  rw [Inventory.vhostsOf, lookup_of_mem hkeys hmem]
  rfl

variable (hids : ((named P).map Prod.fst).Nodup) (hnames : ((named P).map Prod.snd).Nodup)
include hids hnames

/-- Changing the virtual hosts kept under the route of node `i` gives what lines give that change
only that node's virtual hosts. -/
theorem soFar_of_route {i : Int} {r : String} (hr : (i, r) ∈ named P) (hnamed : named Q = named P)
    (hother : ∀ i', i' ≠ i →
      (vhostOrder Q i').map (hostSoFar Q i') = (vhostOrder P i').map (hostSoFar P i'))
    (g : List VirtualHost → List VirtualHost)
    (hg : (vhostOrder Q i).map (hostSoFar Q i) = g ((vhostOrder P i).map (hostSoFar P i))) :
    (⟨(soFar P).nodes.map fun (q, vs) => if q == ofString r then (q, g vs) else (q, vs)⟩ : Inventory) =
      soFar Q := by
  rw [soFar, soFar, hnamed, List.map_map]
  congr 1
  refine List.map_congr_left fun x hx => ?_
  by_cases hxr : x.2 = r
  · -- routes are distinct, so this is node `i`
    have hxi : x.1 = i := congrArg Prod.fst (List.inj_on_of_nodup_map hnames hx hr hxr)
    simp [hxr, hxi, hg]
  · have hxi : x.1 ≠ i := fun h => hxr (congrArg Prod.snd (List.inj_on_of_nodup_map hids hx hr h))
    have hne : ofString x.2 ≠ ofString r := fun h => hxr (ofString_injective h)
    simp [hne, hother x.1 hxi]

/-- Changing virtual host `j` of node `i` where the reader keeps it keeps track of lines that change
only that virtual host. -/
theorem Tracks.modifyHost {st : Reading} (ht : Tracks P st) {i j : Int} {r : String}
    (hr : (i, r) ∈ named P) (hj : j ∈ vhostOrder P i) (hnamed : named Q = named P)
    (horder : ∀ i', vhostOrder Q i' = vhostOrder P i')
    (hother : ∀ i' j', (i', j') ≠ (i, j) → hostSoFar Q i' j' = hostSoFar P i' j')
    (f : VirtualHost → VirtualHost) (hf : hostSoFar Q i j = f (hostSoFar P i j)) :
    Tracks Q (st.modifyHost (ofString r) ((vhostOrder P i).idxOf j) f) where
  inv := by
    have hg : (vhostOrder Q i).map (hostSoFar Q i) =
        ((vhostOrder P i).map (hostSoFar P i)).modify ((vhostOrder P i).idxOf j) f := by
      rw [horder]
      exact map_eq_modify_idxOf (nodup_eraseDups _) hj hf fun j' _ hj' =>
        hother i j' (by simp [hj'])
    have hrest : ∀ i', i' ≠ i →
        (vhostOrder Q i').map (hostSoFar Q i') = (vhostOrder P i').map (hostSoFar P i') :=
      fun i' hi' => by
        rw [horder]
        exact List.map_congr_left fun j' _ => hother i' j' (by simp [hi'])
    rw [← soFar_of_route hids hnames hr hnamed hrest _ hg, ← ht.inv]
    rfl
  routes i' := by rw [Reading.modifyHost_routes, ht.routes, hnamed]
  hosts i' j' := by rw [Reading.modifyHost_hosts, ht.hosts, hnamed, horder]

end Route

/-! ### One line read -/

section Steps

variable {P : List Line} {st : Reading}

theorem Tracks.route_eq (ht : Tracks P st) (hd : Distinct P) {i : Int} {r : String}
    (hr : (i, r) ∈ named P) : st.routes.lookup i = some (ofString r) := by
  rw [ht.routes, lookup_of_mem hd.ids hr]
  rfl

theorem Tracks.place_eq (ht : Tracks P st) (hd : Distinct P) {i j : Int} {r : String}
    (hr : (i, r) ∈ named P) (hj : j ∈ vhostOrder P i) :
    st.hosts.lookup (i, j) = some (ofString r, (vhostOrder P i).idxOf j) := by
  rw [ht.hosts, if_pos hj, lookup_of_mem hd.ids hr]
  rfl

theorem Tracks.length_vhostsOf (ht : Tracks P st) (hd : Distinct P) {i : Int} {r : String}
    (hr : (i, r) ∈ named P) : (st.inv.vhostsOf (ofString r)).length = (vhostOrder P i).length := by
  rw [ht.inv, vhostsOf_soFar hd.names hr, List.length_map]

/-- A `Node` line lists its route, with no virtual host yet. -/
theorem tracks_node (ht : Tracks P st) (ho : Ordered P) {i : Int} {r : String} (os : List String)
    (hd : Distinct (P ++ [.node i r os])) :
    Tracks (P ++ [.node i r os]) ({ st with routes := (i, ofString r) :: st.routes }.touch (ofString r)) := by
  have hnamed : named (P ++ [.node i r os]) = named P ++ [(i, r)] := named_append P _
  have hfresh : i ∉ (named P).map Prod.fst ∧ r ∉ (named P).map Prod.snd := by
    have hids := hd.ids
    have hnames := hd.names
    rw [hnamed, List.map_append, List.map_singleton, ← List.concat_eq_append,
      List.nodup_concat] at hids hnames
    exact ⟨hids.1, hnames.1⟩
  have horder : vhostOrder (P ++ [.node i r os]) = vhostOrder P :=
    funext fun _ => vhostOrder_append_of_none P rfl
  have hhost : hostSoFar (P ++ [.node i r os]) = hostSoFar P :=
    funext fun _ => funext fun _ => hostSoFar_append_of_none P rfl rfl
  have hnone : vhostOrder P i = [] :=
    List.eq_nil_iff_forall_not_mem.2 fun _ hj => hfresh.1 (ho.named_of_mem_vhostOrder hj)
  have hnew : st.inv.nodes.any (·.1 == ofString r) = false := by
    rw [ht.inv, List.any_eq_false]
    intro x hx h
    obtain ⟨y, hy, rfl⟩ := List.mem_map.1 hx
    exact hfresh.2 (List.mem_map.2 ⟨y, hy, ofString_injective (beq_iff_eq.1 h)⟩)
  refine ⟨?_, fun i' => ?_, fun i' j' => ?_⟩
  · rw [Reading.touch_inv_of_new (r := { st with routes := (i, ofString r) :: st.routes }) hnew]
    show (⟨st.inv.nodes ++ [(ofString r, [])]⟩ : Inventory) = _
    rw [ht.inv, soFar, soFar, hnamed, horder, hhost, List.map_append, List.map_singleton, hnone]
    rfl
  · simp only [Reading.touch_routes, hnamed, List.lookup_append, List.lookup_cons]
    by_cases h : i' = i
    · subst h
      simp [lookup_of_not_mem hfresh.1]
    · simp [beq_false_of_ne h, ht.routes]
  · simp only [Reading.touch_hosts, ht.hosts, horder]
    split
    · rename_i hj
      rw [hnamed, lookup_append_of_mem (ho.named_of_mem_vhostOrder hj)]
    · rfl

/-- A `Vhost` line of a virtual host already open adds its alias where the reader keeps it. -/
theorem tracks_vhost_known (ht : Tracks P st) (hd : Distinct P) {i j k : Int} {a r : String}
    (hr : (i, r) ∈ named P) (hj : j ∈ vhostOrder P i) :
    Tracks (P ++ [.vhost i j k a])
      (if a = "" then st
        else st.modifyHost (ofString r) ((vhostOrder P i).idxOf j) (·.addAlias (ofString a))) := by
  have hnamed : named (P ++ [.vhost i j k a]) = named P := named_append_of_none P rfl
  have horder : ∀ i', vhostOrder (P ++ [.vhost i j k a]) i' = vhostOrder P i' := fun i' => by
    rw [vhostOrder_append_vhost, if_neg fun h => h.2 hj]
  split
  · rename_i ha
    subst ha
    exact ht.congr hnamed horder fun i' j' => by rw [hostSoFar_append_vhost_empty]
  · rename_i ha
    exact ht.modifyHost hd.ids hd.names hr hj hnamed horder
      (fun _ _ => hostSoFar_append_vhost_of_ne P) _ (by rw [hostSoFar_append_vhost, if_neg ha])

/-- The first `Vhost` line of a virtual host, its alias left aside, opens the virtual host after
the others of its node. -/
theorem tracks_vhost_open (ht : Tracks P st) (hd : Distinct P) (ho : Ordered P) {i j k : Int}
    {r : String} (hr : (i, r) ∈ named P) (hj : j ∉ vhostOrder P i) :
    Tracks (P ++ [.vhost i j k ""])
      { st with
        inv := ⟨st.inv.nodes.map fun (q, vs) => if q == ofString r then (q, vs ++ [{}]) else (q, vs)⟩
        hosts := ((i, j), (ofString r, (st.inv.vhostsOf (ofString r)).length)) :: st.hosts } := by
  have hnamed : named (P ++ [.vhost i j k ""]) = named P := named_append_of_none P rfl
  have horder : ∀ i', vhostOrder (P ++ [.vhost i j k ""]) i' =
      if i' = i then vhostOrder P i ++ [j] else vhostOrder P i' := fun i' => by
    simp only [vhostOrder_append_vhost, hj, not_false_eq_true, and_true]
  refine ⟨?_, fun i' => ?_, fun i' j' => ?_⟩
  · show (⟨st.inv.nodes.map _⟩ : Inventory) = _
    rw [ht.inv]
    refine soFar_of_route hd.ids hd.names hr hnamed (fun i' hi' => ?_)
      (· ++ [({} : VirtualHost)]) ?_
    · rw [horder, if_neg hi', hostSoFar_append_vhost_empty]
    · -- the virtual host opened has no alias and no context yet
      rw [horder, if_pos rfl, hostSoFar_append_vhost_empty, List.map_append, List.map_singleton,
        hostSoFar_of_not_mem ho hj]
  · rw [ht.routes, hnamed]
  · show (((i, j), (ofString r, _)) :: st.hosts).lookup (i', j') = _
    rw [List.lookup_cons, hnamed, horder]
    by_cases h : (i', j') = (i, j)
    · obtain ⟨rfl, rfl⟩ := Prod.mk.inj h
      simp [lookup_of_mem hd.ids hr, List.idxOf_append, hj, ht.length_vhostsOf hd hr]
    · rw [beq_false_of_ne h, ht.hosts]
      by_cases hi : i' = i
      · subst hi
        have hj' : j' ≠ j := fun he => h (by rw [he])
        simp only [↓reduceIte, List.mem_append, List.mem_singleton, hj', or_false]
        split
        · rename_i hmem
          rw [List.idxOf_append, if_pos hmem]
        · rfl
      · simp only [if_neg hi]

/-- The first `Vhost` line of a virtual host opens it after the others of its node, then adds its
alias. -/
theorem tracks_vhost_new (ht : Tracks P st) (hd : Distinct P) (ho : Ordered P) {i j k : Int}
    {a r : String} (hr : (i, r) ∈ named P) (hj : j ∉ vhostOrder P i) :
    Tracks (P ++ [.vhost i j k a])
      (let len := (st.inv.vhostsOf (ofString r)).length
        let opened : Reading :=
          { st with
            inv := ⟨st.inv.nodes.map fun (q, vs) =>
              if q == ofString r then (q, vs ++ [{}]) else (q, vs)⟩
            hosts := ((i, j), (ofString r, len)) :: st.hosts }
        if a = "" then opened else opened.modifyHost (ofString r) len (·.addAlias (ofString a))) := by
  have hopened := tracks_vhost_open (k := k) ht hd ho hr hj
  dsimp only
  split
  · rename_i ha
    subst ha
    exact hopened
  · -- then the alias is added, as a `Vhost` line of a virtual host already open adds it
    rename_i ha
    have hnamed : named (P ++ [.vhost i j k ""]) = named P := named_append_of_none P rfl
    have hmem : j ∈ vhostOrder (P ++ [.vhost i j k ""]) i := by
      rw [vhostOrder_append_vhost, if_pos ⟨rfl, hj⟩]
      simp
    have hidx : (vhostOrder (P ++ [.vhost i j k ""]) i).idxOf j =
        (st.inv.vhostsOf (ofString r)).length := by
      rw [vhostOrder_append_vhost, if_pos ⟨rfl, hj⟩, List.idxOf_append, if_neg hj,
        ht.length_vhostsOf hd hr]
      simp
    have hnext := hopened.modifyHost (Q := P ++ [.vhost i j k a]) (i := i) (j := j)
      (by rw [hnamed]; exact hd.ids) (by rw [hnamed]; exact hd.names) (by rw [hnamed]; exact hr)
      hmem ((named_append_of_none P rfl).trans hnamed.symm)
      (fun i' => by rw [vhostOrder_append_vhost, vhostOrder_append_vhost])
      (fun i' j' h => by rw [hostSoFar_append_vhost_of_ne P h, hostSoFar_append_vhost_of_ne P h])
      (·.addAlias (ofString a))
      (by rw [hostSoFar_append_vhost, if_neg ha, hostSoFar_append_vhost_empty])
    rwa [hidx] at hnext

/-- A path named once per virtual host is not among those its virtual host had before. -/
theorem Distinct.path_fresh {i j k : Int} {p w : String} {s : ContextStatus}
    (hd : Distinct (P ++ [.context i j k p s w])) :
    (hostSoFar P i j).contexts.any (·.1 == ofString (normalizePath p)) = false := by
  have hpaths := hd.paths i j
  have hcontexts : (P ++ [Line.context i j k p s w]).filterMap (·.contextOf? i j) =
      P.filterMap (·.contextOf? i j) ++ [(p, s)] := by
    rw [List.filterMap_append]
    congr 1
    simp
  rw [hcontexts, List.map_append, List.map_singleton, ← List.concat_eq_append,
    List.nodup_concat] at hpaths
  rw [hostSoFar, List.any_map, List.any_eq_false]
  intro c hc h
  exact hpaths.1 (List.mem_map.2 ⟨c, hc, ofString_injective (beq_iff_eq.1 h)⟩)

/-- A `Context` line sets the status of the normal form of its path where the reader keeps its
virtual host. -/
theorem tracks_context (ht : Tracks P st) {i j k : Int} {p w : String} {s : ContextStatus}
    (hd : Distinct (P ++ [.context i j k p s w])) {r : String} (hr : (i, r) ∈ named P)
    (hj : j ∈ vhostOrder P i) :
    Tracks (P ++ [.context i j k p s w])
      (st.modifyHost (ofString r) ((vhostOrder P i).idxOf j)
        (·.setStatus (ofString (normalizePath p)) s)) := by
  have hd' : Distinct P := hd.of_append
  refine ht.modifyHost hd'.ids hd'.names hr hj (named_append_of_none P rfl)
    (fun _ => vhostOrder_append_of_none P rfl) (fun _ _ => hostSoFar_append_context_of_ne P) _ ?_
  rw [hostSoFar_append_context P (l := .context i j k p s w) (c := (p, s)) rfl (by simp),
    VirtualHost.setStatus, hd.path_fresh]
  rfl

end Steps

/-! ### A whole answer -/

section Run

/-- Each row keeps track of the lines read, when its line comes after what it refers to. -/
theorem readRow_tracks {P : List Line} {st : Reading} (ht : Tracks P st) {x : Line × Bool}
    (hd : Distinct (P ++ [x.1])) (ho : Ordered (P ++ [x.1])) (hx : x.1.Proper) (m : Nat) :
    ∃ st', readRow st (ofString (rowText x), m) = .ok st' ∧ Tracks (P ++ [x.1]) st' := by
  obtain ⟨l, cr⟩ := x
  have hd' : Distinct P := hd.of_append
  have ho' : Ordered P := ho.of_append
  have hready : l.Ready P := ho.ready
  cases l with
  | node i r os =>
    rw [readRow_record st (l := .node i r os) trivial cr m, readLine_node (m + 1) st hx.1 hx.2.1 os]
    exact ⟨_, rfl, tracks_node ht ho' os hd⟩
  | vhost i j k a =>
    obtain ⟨l', hl', hnode⟩ := hready
    obtain ⟨⟨i', r⟩, hmem, hi⟩ := Option.map_eq_some_iff.1 hnode
    obtain rfl : i' = i := hi
    have hr : (i', r) ∈ named P := List.mem_filterMap.2 ⟨l', hl', hmem⟩
    have hroute := ht.route_eq hd' hr
    rw [readRow_record st (l := .vhost i' j k a) trivial cr m]
    by_cases hj : j ∈ vhostOrder P i'
    · rw [readLine_vhost_known (m + 1) st hx.1 hx.2.1 hx.2.2.1 hx.2.2.2 hroute
        (ht.place_eq hd' hr hj)]
      exact ⟨_, rfl, tracks_vhost_known ht hd' hr hj⟩
    · have hnew : st.hosts.lookup (i', j) = none := by rw [ht.hosts, if_neg hj]
      have hlisted : st.inv.nodes.any (·.1 == ofString r) = true := by
        rw [ht.inv, List.any_eq_true]
        exact ⟨_, List.mem_map.2 ⟨(i', r), hr, rfl⟩, beq_self_eq_true _⟩
      rw [readLine_vhost_new (m + 1) st hx.1 hx.2.1 hx.2.2.1 hx.2.2.2 hroute hnew hlisted]
      exact ⟨_, rfl, tracks_vhost_new ht hd' ho' hr hj⟩
  | context i j k p s w =>
    obtain ⟨l', hl', hvhost⟩ := hready
    have hj : j ∈ vhostOrder P i := by
      rw [vhostOrder, List.mem_eraseDups]
      exact List.mem_filterMap.2 ⟨l', hl', hvhost⟩
    obtain ⟨⟨i', r⟩, hr, hi⟩ := List.mem_map.1 (ho'.named_of_mem_vhostOrder hj)
    obtain rfl : i = i' := hi.symm
    rw [readRow_record st (l := .context i j k p s w) trivial cr m,
      readLine_context (m + 1) st hx.1 hx.2.1 hx.2.2.1 hx.2.2.2.1 hx.2.2.2.2 (ht.route_eq hd' hr)
        (ht.place_eq hd' hr hj)]
    exact ⟨_, rfl, tracks_context ht hd hr hj⟩
  | blank w =>
    rw [readRow_blank st hx.2 cr m]
    exact ⟨st, rfl, ht.congr (named_append_of_none P rfl) (fun _ => vhostOrder_append_of_none P rfl)
      (fun _ _ => hostSoFar_append_of_none P rfl rfl)⟩

/-- Reading rows in turn keeps track of all their lines. -/
theorem foldlM_readRow_tracks : ∀ (rows : List (Line × Bool)) (P : List Line) (st : Reading)
    (m : Nat), Tracks P st → Distinct (P ++ rows.map (·.1)) → Ordered (P ++ rows.map (·.1)) →
    (∀ x ∈ rows, x.1.Proper) →
    ∃ st', ((rows.map fun x => ofString (rowText x)).zipIdx m).foldlM readRow st = .ok st' ∧
      Tracks (P ++ rows.map (·.1)) st'
  -- on the rows still to read, the lines already read carrying the invariant
  | [], P, st, _, ht, _, _, _ => ⟨st, rfl, by simpa using ht⟩
  | x :: rows, P, st, m, ht, hd, ho, hp => by
    have hassoc : P ++ (x :: rows).map (·.1) = (P ++ [x.1]) ++ rows.map (·.1) := by simp
    rw [hassoc] at hd ho
    obtain ⟨st₁, hrow, ht₁⟩ :=
      readRow_tracks ht hd.of_append ho.of_append (hp x List.mem_cons_self) m
    obtain ⟨st', hrest, ht'⟩ := foldlM_readRow_tracks rows (P ++ [x.1]) st₁ (m + 1) ht₁ hd ho
      fun y hy => hp y (List.mem_cons_of_mem _ hy)
    refine ⟨st', ?_, by rwa [hassoc]⟩
    rw [List.map_cons, List.zipIdx_cons, List.foldlM_cons, hrow]
    exact hrest

/-- Reading an answer gives what its lines give, when each line comes after what it refers to,
nodes and their routes are named once, and paths are named once per virtual host. -/
theorem parse_answer {ls : List (Line × Bool)} (hd : Distinct (ls.map (·.1)))
    (ho : Ordered (ls.map (·.1))) (hp : ∀ x ∈ ls, x.1.Proper) :
    parse (ofString (answer ls)) = .ok (soFar (ls.map (·.1))) := by
  cases ls with
  | nil =>
    have hnil : ofString (answer []) = [] := ofString_eq_nil_iff.2 rfl
    rw [hnil, parse_eq_foldlM]
    simp [readRow, soFar, named, trimBlank_eq, pieces_nil, Except.map]
  | cons x xs =>
    have hne : x :: xs ≠ [] := List.cons_ne_nil x xs
    obtain ⟨st, hrun, ht⟩ := foldlM_readRow_tracks (x :: xs) [] {} 0 tracks_empty
      (by simpa using hd) (by simpa using ho) hp
    rw [List.nil_append] at ht
    rw [parse_eq_foldlM, splitOn_answer hne hp]
    show Except.map _ (List.foldlM readRow {} (List.zipIdx _ 0)) = _
    rw [hrun, ← ht.inv]
    rfl

end Run

end Info

end ClusterAgent
