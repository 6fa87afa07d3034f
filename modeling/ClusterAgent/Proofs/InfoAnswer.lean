import ClusterAgent.Proofs.InfoRun

/-!
# An `INFO` answer rebuilds the inventory it describes

A description (`Info.NodeSpec`) lists nodes. Each node has an id, a route and virtual hosts; each
virtual host has an id, aliases and a status for each of its paths. A rendering of a description
(`Info.Renders`) writes one `Node` line per node, one `Vhost` line per alias and one `Context` line
per path. The lines may come in any order in which each line comes after what it refers to. Blank
lines, carriage returns, other fields on `Node` lines and any letter case of the status words are
allowed.

Reading a rendering gives back what it describes (`Info.parse_rendering`): the same routes, and for
each node the same virtual hosts, each with the same non-empty aliases and the statuses of the
normal forms of its paths. The virtual hosts of a node come in the order of their first `Vhost`
line. An empty alias is not kept, and an id that does not fit a signed 64-bit word makes the answer
unreadable (`Info.parse_drops_empty_alias_and_wide_id`).
-/

namespace ClusterAgent

namespace Info

open Inventory Bytes

/-! ### Entries picked by a distinct key -/

section Keys

variable {β γ : Type} {key : β → Int} {l : List β}

theorem flatMap_key_eq (hl : (l.map key).Nodup) {b : β} (hb : b ∈ l) (F : β → List γ) :
    l.flatMap (fun c => if key c = key b then F c else []) = F b := by
  induction l with
  | nil => cases hb
  | cons c l ih =>
    rw [List.map_cons, List.nodup_cons] at hl
    rw [List.flatMap_cons]
    rcases List.mem_cons.1 hb with rfl | hb
    · -- no other member has the key
      have hrest : l.flatMap (fun c' => if key c' = key b then F c' else []) = [] := by
        refine List.flatMap_eq_nil_iff.2 fun c' hc' => if_neg fun h => hl.1 ?_
        rw [← h]
        exact List.mem_map_of_mem hc'
      rw [if_pos rfl, hrest, List.append_nil]
    · have hne : key c ≠ key b := fun h => hl.1 (h ▸ List.mem_map_of_mem hb)
      rw [if_neg hne, List.nil_append, ih hl.2 hb]

/-- What holds of no entries and of each member's entries holds of the entries of any key. -/
theorem flatMap_key_of (hl : (l.map key).Nodup) (i : Int) {F : β → List γ} {P : List γ → Prop}
    (hnil : P []) (hF : ∀ b ∈ l, key b = i → P (F b)) :
    P (l.flatMap fun c => if key c = i then F c else []) := by
  by_cases h : ∃ b ∈ l, key b = i
  · obtain ⟨b, hb, rfl⟩ := h
    rw [flatMap_key_eq hl hb]
    exact hF b hb rfl
  · simp only [not_exists, not_and] at h
    rw [List.flatMap_eq_nil_iff.2 fun c hc => if_neg (h c hc)]
    exact hnil

/-- A reordering of the keys is the keys of a reordering. -/
theorem exists_perm_map_eq [DecidableEq β] (f : β → Int) :
    ∀ {o : List Int} {l : List β}, (l.map f).Nodup → o.Perm (l.map f) →
      ∃ vs : List β, vs.Perm l ∧ vs.map f = o
  | [], l, _, ho => ⟨[], by simpa using ho.symm, rfl⟩
  | a :: o, l, hl, ho => by
    obtain ⟨b, hb, rfl⟩ := List.mem_map.1 (ho.subset List.mem_cons_self)
    have hsplit : l.Perm (b :: l.erase b) := List.perm_cons_erase hb
    have hrest : o.Perm ((l.erase b).map f) := by
      have := ho.trans (hsplit.map f)
      rwa [List.map_cons, List.perm_cons] at this
    have hnodup : ((l.erase b).map f).Nodup := by
      have := (hsplit.map f).nodup_iff.1 hl
      rw [List.map_cons, List.nodup_cons] at this
      exact this.2
    obtain ⟨vs, hvs, hmap⟩ := exists_perm_map_eq f hnodup hrest
    exact ⟨b :: vs, (hvs.cons b).trans hsplit.symm, by rw [List.map_cons, hmap]⟩

end Keys

/-! ### Descriptions -/

/-- A virtual host as a description gives it. -/
structure HostSpec where
  id : Int
  aliases : List String
  contexts : List (String × ContextStatus)
  deriving DecidableEq, Repr

/-- A node as a description gives it. -/
structure NodeSpec where
  id : Int
  name : String
  vhosts : List HostSpec
  deriving DecidableEq, Repr

/-- A virtual host the format can carry: an id that fits a word, at least one alias, aliases and
paths the format can carry, no alias twice and no two paths with one normal form. -/
@[mk_iff] structure HostSpec.WellFormed (v : HostSpec) : Prop where
  id : Fits v.id
  aliases_ne_nil : v.aliases ≠ []
  aliases_nodup : v.aliases.Nodup
  aliases : ∀ a ∈ v.aliases, Field a
  paths : ∀ c ∈ v.contexts, Field c.1
  paths_nodup : (v.contexts.map fun c => normalizePath c.1).Nodup

instance (v : HostSpec) : Decidable v.WellFormed :=
  decidable_of_iff _ (HostSpec.wellFormed_iff v).symm

/-- A node the format can carry: an id that fits a word, a route the format can carry, and
virtual hosts with distinct ids, each well formed. -/
@[mk_iff] structure NodeSpec.WellFormed (n : NodeSpec) : Prop where
  id : Fits n.id
  name : Field n.name
  vhost_ids : (n.vhosts.map (·.id)).Nodup
  vhosts : ∀ v ∈ n.vhosts, v.WellFormed

instance (n : NodeSpec) : Decidable n.WellFormed :=
  decidable_of_iff _ (NodeSpec.wellFormed_iff n).symm

/-- A description: nodes with distinct ids and distinct routes, each well formed. -/
@[mk_iff] structure WellFormed (ns : List NodeSpec) : Prop where
  ids : (ns.map (·.id)).Nodup
  names : (ns.map (·.name)).Nodup
  nodes : ∀ n ∈ ns, n.WellFormed

instance (ns : List NodeSpec) : Decidable (WellFormed ns) :=
  decidable_of_iff _ (wellFormed_iff ns).symm

/-- The records a description states: one per node, one per alias and one per path. -/
def records (ns : List NodeSpec) : List Record :=
  ns.flatMap fun n => .node n.id n.name :: n.vhosts.flatMap fun v =>
    v.aliases.map (.hostAlias n.id v.id) ++ v.contexts.map fun c => .context n.id v.id c.1 c.2

/-- A reported virtual host answers a described one: the same non-empty aliases and the statuses
of the normal forms of its paths, in any order. -/
def HostSpec.ReportedAs (v : HostSpec) (w : VirtualHost) : Prop :=
  w.aliases.Perm ((v.aliases.filter (· ≠ "")).map ofString) ∧
    w.contexts.Perm (v.contexts.map fun c => (ofString (normalizePath c.1), c.2))

section Records

variable (ns : List NodeSpec)

theorem filterMap_node?_records :
    (records ns).filterMap Record.node? = ns.map fun n => (n.id, n.name) := by
  rw [records, List.filterMap_flatMap, List.map_eq_flatMap]
  congr 1
  funext n
  rw [List.filterMap_cons_some (f := Record.node?) rfl, List.filterMap_flatMap]
  simp [Record.node?, List.flatMap_eq_nil_iff]

/-- The virtual host ids of node `i` the records state: each once per alias. -/
theorem filterMap_vhostOf?_records (i : Int) :
    (records ns).filterMap (Record.vhostOf? i) = ns.flatMap fun n =>
      if n.id = i then n.vhosts.flatMap fun v => List.replicate v.aliases.length v.id else [] := by
  rw [records, List.filterMap_flatMap]
  congr 1
  funext n
  rw [List.filterMap_cons_none rfl, List.filterMap_flatMap]
  split <;> simp [*, Record.vhostOf?, Function.comp_def]

theorem filterMap_aliasOf?_records (i j : Int) :
    (records ns).filterMap (Record.aliasOf? i j) = ns.flatMap fun n =>
      if n.id = i then n.vhosts.flatMap fun v => if v.id = j then v.aliases else [] else [] := by
  rw [records, List.filterMap_flatMap]
  congr 1
  funext n
  rw [List.filterMap_cons_none rfl, List.filterMap_flatMap]
  split
  · refine List.flatMap_congr fun v _ => ?_
    by_cases hv : v.id = j <;> simp [*, Record.aliasOf?, Function.comp_def]
  · simp [*, Record.aliasOf?, Function.comp_def]

theorem filterMap_contextOf?_records (i j : Int) :
    (records ns).filterMap (Record.contextOf? i j) = ns.flatMap fun n =>
      if n.id = i then n.vhosts.flatMap fun v => if v.id = j then v.contexts else [] else [] := by
  rw [records, List.filterMap_flatMap]
  congr 1
  funext n
  rw [List.filterMap_cons_none rfl, List.filterMap_flatMap]
  split
  · refine List.flatMap_congr fun v _ => ?_
    by_cases hv : v.id = j <;> simp [*, Record.contextOf?, Function.comp_def]
  · simp [*, Record.contextOf?, Function.comp_def]

theorem mem_aliases {i j : Int} {a : String} :
    a ∈ (records ns).filterMap (Record.aliasOf? i j) ↔
      ∃ n ∈ ns, n.id = i ∧ ∃ v ∈ n.vhosts, v.id = j ∧ a ∈ v.aliases := by
  simp [filterMap_aliasOf?_records, List.mem_flatMap]

theorem mem_contexts {i j : Int} {c : String × ContextStatus} :
    c ∈ (records ns).filterMap (Record.contextOf? i j) ↔
      ∃ n ∈ ns, n.id = i ∧ ∃ v ∈ n.vhosts, v.id = j ∧ c ∈ v.contexts := by
  simp [filterMap_contextOf?_records, List.mem_flatMap]

end Records

/-! ### Renderings -/

namespace Line

/-- The choices a rendering makes on a line: other fields on a `Node` line, a tag id that fits a
word, the letter case of a status, and the white space of a blank line. -/
def Written : Line → Prop
  | node _ _ os => ∀ o ∈ os, '\n' ∉ o.toList
  | vhost _ _ k _ => Fits k
  | context _ _ k _ s w => Fits k ∧ w.toUpper = s.name
  | blank w => '\n' ∉ w.toList ∧ w.trimBlank = ""

instance : DecidablePred Written := fun l =>
  match l with
  | node _ _ os => inferInstanceAs (Decidable (∀ o ∈ os, '\n' ∉ o.toList))
  | vhost _ _ k _ => inferInstanceAs (Decidable (Fits k))
  | context _ _ k _ s w => inferInstanceAs (Decidable (Fits k ∧ w.toUpper = s.name))
  | blank w => inferInstanceAs (Decidable ('\n' ∉ w.toList ∧ w.trimBlank = ""))

instance (P : List Line) : DecidablePred (Ready P) := fun l =>
  match l with
  | node .. => inferInstanceAs (Decidable True)
  | vhost i _ _ _ => inferInstanceAs (Decidable (∃ l ∈ P, l.node?.map Prod.fst = some i))
  | context i j _ _ _ _ => inferInstanceAs (Decidable (∃ l ∈ P, l.vhostOf? i = some j))
  | blank _ => inferInstanceAs (Decidable True)

end Line

/-- Lines in order, said line by line: each comes after what it refers to among the lines before
it. -/
theorem ordered_iff (P : List Line) :
    Ordered P ↔ ∀ n (h : n < P.length), P[n].Ready (P.take n) := by
  constructor
  · intro ho n h
    refine ho (P.take n) P[n] (P.drop (n + 1)) ?_
    rw [← List.drop_eq_getElem_cons h, List.take_append_drop]
  · rintro h A l B rfl
    have hlen : A.length < (A ++ l :: B).length := by simp
    simpa using h A.length hlen

instance : DecidablePred Ordered := fun P => decidable_of_iff _ (ordered_iff P).symm

/-- A rendering of a description: its record lines state the description's records, each once;
each line is written as the format allows and comes after what it refers to. -/
@[mk_iff] structure Renders (ns : List NodeSpec) (ls : List (Line × Bool)) : Prop where
  states : (ls.filterMap (·.1.record?)).Perm (records ns)
  written : ∀ x ∈ ls, x.1.Written
  ordered : Ordered (ls.map (·.1))

instance (ns : List NodeSpec) (ls : List (Line × Bool)) : Decidable (Renders ns ls) :=
  decidable_of_iff _ (renders_iff ns ls).symm

/-! ### What a rendering's lines give -/

section Rendering

variable {ns : List NodeSpec} {ls : List (Line × Bool)}

theorem Renders.filterMap_perm (hr : Renders ns ls) {α : Type} (g : Record → Option α) :
    ((ls.map (·.1)).filterMap fun l => l.record?.bind g).Perm ((records ns).filterMap g) := by
  rw [← List.filterMap_filterMap, List.filterMap_map]
  exact hr.states.filterMap g

theorem Renders.named_perm (hr : Renders ns ls) :
    (named (ls.map (·.1))).Perm (ns.map fun n => (n.id, n.name)) := by
  rw [← filterMap_node?_records]
  exact hr.filterMap_perm Record.node?

theorem Renders.aliases_perm (hr : Renders ns ls) (i j : Int) :
    ((ls.map (·.1)).filterMap (·.aliasOf? i j)).Perm
      ((records ns).filterMap (Record.aliasOf? i j)) :=
  hr.filterMap_perm _

theorem Renders.contexts_perm (hr : Renders ns ls) (i j : Int) :
    ((ls.map (·.1)).filterMap (·.contextOf? i j)).Perm
      ((records ns).filterMap (Record.contextOf? i j)) :=
  hr.filterMap_perm _

variable (hwf : WellFormed ns) (hr : Renders ns ls)
include hwf hr

omit hr in
theorem nodup_paths_records (i j : Int) :
    (((records ns).filterMap (Record.contextOf? i j)).map fun c => normalizePath c.1).Nodup := by
  have hvhosts : ∀ n ∈ ns, ∀ v ∈ n.vhosts, (v.contexts.map fun c => normalizePath c.1).Nodup :=
    fun n hn v hv => ((hwf.nodes n hn).vhosts v hv).paths_nodup
  rw [filterMap_contextOf?_records]
  generalize (fun c : String × ContextStatus => normalizePath c.1) = N at hvhosts ⊢
  refine flatMap_key_of hwf.ids i (P := fun l => (l.map N).Nodup) (by simp) fun n hn _ => ?_
  exact flatMap_key_of (hwf.nodes n hn).vhost_ids j (P := fun l => (l.map N).Nodup) (by simp)
    fun v hv _ => hvhosts n hn v hv

theorem Renders.proper : ∀ x ∈ ls, x.1.Proper := by
  rintro ⟨l, cr⟩ hx
  have hw : l.Written := hr.written _ hx
  have hl : l ∈ ls.map (·.1) := List.mem_map.2 ⟨_, hx, rfl⟩
  cases l with
  | node i r os =>
    have hmem : (i, r) ∈ ns.map fun n => (n.id, n.name) :=
      hr.named_perm.subset (List.mem_filterMap.2 ⟨_, hl, rfl⟩)
    obtain ⟨n, hn, hnr⟩ := List.mem_map.1 hmem
    obtain ⟨rfl, rfl⟩ := Prod.mk.inj hnr
    exact ⟨(hwf.nodes n hn).id, (hwf.nodes n hn).name, hw⟩
  | vhost i j k a =>
    have ha : a ∈ (ls.map (·.1)).filterMap (·.aliasOf? i j) := List.mem_filterMap.2 ⟨_, hl, by simp⟩
    obtain ⟨n, hn, rfl, v, hv, rfl, hav⟩ := (mem_aliases ns).1 ((hr.aliases_perm i j).subset ha)
    have hvwf := (hwf.nodes n hn).vhosts v hv
    exact ⟨(hwf.nodes n hn).id, hvwf.id, hw, hvwf.aliases a hav⟩
  | context i j k p s w =>
    have hc : (p, s) ∈ (ls.map (·.1)).filterMap (·.contextOf? i j) :=
      List.mem_filterMap.2 ⟨_, hl, by simp⟩
    obtain ⟨n, hn, rfl, v, hv, rfl, hcv⟩ := (mem_contexts ns).1 ((hr.contexts_perm i j).subset hc)
    have hvwf := (hwf.nodes n hn).vhosts v hv
    exact ⟨(hwf.nodes n hn).id, hvwf.id, hw.1, hvwf.paths (p, s) hcv, hw.2⟩
  | blank w => exact hw

theorem Renders.distinct : Distinct (ls.map (·.1)) where
  ids := by
    have := hr.named_perm.map Prod.fst
    rw [List.map_map] at this
    exact this.nodup_iff.2 hwf.ids
  names := by
    have := hr.named_perm.map Prod.snd
    rw [List.map_map] at this
    exact this.nodup_iff.2 hwf.names
  paths i j := by
    have hperm := hr.contexts_perm i j
    have hnodup := nodup_paths_records hwf i j
    generalize (fun c : String × ContextStatus => normalizePath c.1) = N at hnodup ⊢
    exact (hperm.map N).nodup_iff.2 hnodup

/-- A node's virtual hosts are those its `Vhost` lines name, since each has an alias. -/
theorem Renders.vhostOrder_perm {n : NodeSpec} (hn : n ∈ ns) :
    (vhostOrder (ls.map (·.1)) n.id).Perm (n.vhosts.map (·.id)) := by
  have hperm : ((ls.map (·.1)).filterMap (·.vhostOf? n.id)).Perm
      ((records ns).filterMap (Record.vhostOf? n.id)) := hr.filterMap_perm _
  refine (List.perm_ext_iff_of_nodup (nodup_eraseDups _) (hwf.nodes n hn).vhost_ids).2 fun j => ?_
  rw [List.mem_eraseDups, hperm.mem_iff, filterMap_vhostOf?_records,
    flatMap_key_eq hwf.ids hn]
  simp only [List.mem_flatMap, List.mem_replicate, List.mem_map]
  constructor
  · rintro ⟨v, hv, -, rfl⟩
    exact ⟨v, hv, rfl⟩
  · rintro ⟨v, hv, rfl⟩
    have hne := ((hwf.nodes n hn).vhosts v hv).aliases_ne_nil
    exact ⟨v, hv, by simpa using hne, rfl⟩

theorem Renders.reportedAs {n : NodeSpec} (hn : n ∈ ns) {v : HostSpec} (hv : v ∈ n.vhosts) :
    v.ReportedAs (hostSoFar (ls.map (·.1)) n.id v.id) := by
  have hnwf := hwf.nodes n hn
  have hvwf := hnwf.vhosts v hv
  have haliases : ((ls.map (·.1)).filterMap (·.aliasOf? n.id v.id)).Perm v.aliases := by
    have hperm := hr.aliases_perm n.id v.id
    rwa [filterMap_aliasOf?_records, flatMap_key_eq hwf.ids hn,
      flatMap_key_eq hnwf.vhost_ids hv] at hperm
  have hcontexts : ((ls.map (·.1)).filterMap (·.contextOf? n.id v.id)).Perm v.contexts := by
    have hperm := hr.contexts_perm n.id v.id
    rwa [filterMap_contextOf?_records, flatMap_key_eq hwf.ids hn,
      flatMap_key_eq hnwf.vhost_ids hv] at hperm
  constructor
  · -- the kept aliases are distinct, so none is dropped as a repeat
    have hkept := (haliases.filter (· ≠ "")).map ofString
    rw [hostSoFar, eraseDups_of_nodup
      (hkept.nodup_iff.2 ((hvwf.aliases_nodup.filter _).map ofString_injective))]
    exact hkept
  · exact hcontexts.map _

end Rendering

/-! ### Reading a rendering -/

/-- Reading any rendering of a well-formed description gives back what it describes: one route per
node, and under each route the node's virtual hosts, in the order of their first `Vhost` line, each
with its non-empty aliases and the statuses of the normal forms of its paths. -/
theorem parse_rendering {ns : List NodeSpec} (hwf : WellFormed ns) {ls : List (Line × Bool)}
    (hr : Renders ns ls) :
    ∃ inv, Inventory.parse (ofString (answer ls)) = .ok inv ∧
      (inv.nodes.map (·.1)).Perm (ns.map fun n => ofString n.name) ∧
      ∀ n ∈ ns, ∃ vs : List HostSpec, vs.Perm n.vhosts ∧
        vs.map (·.id) = vhostOrder (ls.map (·.1)) n.id ∧
        List.Forall₂ HostSpec.ReportedAs vs (inv.vhostsOf (ofString n.name)) := by
  have hd := hr.distinct hwf
  refine ⟨soFar (ls.map (·.1)), parse_answer hd hr.ordered (hr.proper hwf), ?_, fun n hn => ?_⟩
  · have hroutes := (hr.named_perm.map Prod.snd).map ofString
    simp only [List.map_map] at hroutes
    rw [routes_soFar, List.map_map]
    exact hroutes
  · -- the node's virtual hosts, reordered as their first `Vhost` lines come
    obtain ⟨vs, hperm, hids⟩ :=
      exists_perm_map_eq HostSpec.id (hwf.nodes n hn).vhost_ids (hr.vhostOrder_perm hwf hn)
    refine ⟨vs, hperm, hids, ?_⟩
    have hnamed : (n.id, n.name) ∈ named (ls.map (·.1)) :=
      hr.named_perm.mem_iff.2 (List.mem_map_of_mem hn)
    rw [vhostsOf_soFar hd.names hnamed, ← hids, List.map_map]
    exact List.forall₂_map_right_iff.2
      (List.forall₂_same.2 fun v hv => hr.reportedAs hwf hn (hperm.subset hv))

/-- A node with two aliases on one virtual host, its lines out of the description's order, the
second `Vhost` line after the `Context` line, with other fields, blank lines, carriage returns and a
status in mixed case. -/
theorem parse_rendering_interleaved :
    let ns : List NodeSpec :=
      [⟨1, "node1", [⟨7, ["localhost", "example.com"], [("/app", .enabled)]⟩]⟩]
    let ls : List (Line × Bool) :=
      [(.node 1 "node1" ["Balancer: mycluster"], true), (.vhost 1 7 1 "example.com", true),
        (.blank " ", false), (.context 1 7 2 "/app" .enabled "Enabled", false),
        (.vhost 1 7 3 "localhost", false)]
    WellFormed ns ∧ Renders ns ls ∧
      ∃ inv, Inventory.parse (ofString (answer ls)) = .ok inv ∧
        (inv.nodes.map (·.1)).Perm (ns.map fun n => ofString n.name) ∧
        ∀ n ∈ ns, ∃ vs : List HostSpec, vs.Perm n.vhosts ∧
          vs.map (·.id) = vhostOrder (ls.map (·.1)) n.id ∧
          List.Forall₂ HostSpec.ReportedAs vs (inv.vhostsOf (ofString n.name)) := by
  intro ns ls
  have hwf : WellFormed ns := by decide +kernel
  have hr : Renders ns ls := by decide +kernel
  exact ⟨hwf, hr, parse_rendering hwf hr⟩

/-- Two descriptions the format does not carry back. An empty alias is written `Alias: ` and is
not kept, so its virtual host is reported with no alias. A node id of `2^63` does not fit a signed
64-bit word, so its `Node` line is a malformed id group and nothing is read. -/
theorem parse_drops_empty_alias_and_wide_id :
    Inventory.parse (ofString "Node: [1],Name: node1\nVhost: [1:1:1], Alias: ") =
        .ok ⟨[(ofString "node1", [{}])]⟩ ∧
      Inventory.parse (ofString "Node: [9223372036854775808],Name: node1") =
        .error (.badIdGroup 1 (ofString "[9223372036854775808]")) :=
  ⟨by decide +kernel, by decide +kernel⟩

end Info

end ClusterAgent
