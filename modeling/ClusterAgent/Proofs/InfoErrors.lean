import ClusterAgent.Proofs.InfoRun
import Mathlib

/-!
# Where reading an `INFO` answer fails

The reader splits an answer at each line feed and trims each line (`Inventory.lines`). A line
holds a record when its first `,`-separated field is `Tag: group` (`Inventory.record?`). Reading
stops at a `Node`, `Vhost` or `Context` record whose id group does not read, at a `Vhost` or
`Context` record with fewer than two ids, at one whose node no earlier `Node` line named, at a
`Context` record whose virtual host no earlier `Vhost` line opened, and at a `Context` record
whose status is none of the three (`Inventory.Fault`, checked in that order).

What the reader remembers between lines depends on the earlier lines alone: a node is known once
a `Node` line with a `Name` named it, a virtual host once a `Vhost` line opened it
(`Inventory.Reading.Remembers`). Each line keeps that invariant or stops the reader with the
error its record calls for (`Inventory.readLine_eq_error_iff`, `Inventory.readLine_learns`), so
reading fails exactly at the first line that stops it, with that line's error, and succeeds
exactly when no line stops it (`Inventory.parse_fails_at_first_faulty_line`). Every error message
starts with `line N: `, N counting blank lines too, then the error it wraps.
-/

namespace ClusterAgent

namespace RecordKind

/-- The tag that opens a record of a kind. -/
def tag : RecordKind → Bytes
  | node => Bytes.ofString "Node"
  | vhost => Bytes.ofString "Vhost"
  | context => Bytes.ofString "Context"

theorem tag_inj {k k' : RecordKind} : k.tag = k'.tag ↔ k = k' := by
  cases k <;> cases k' <;> decide +kernel

@[simp] theorem tag_eq_node (k : RecordKind) : k.tag = Bytes.ofString "Node" ↔ k = .node := by
  cases k <;> decide +kernel

@[simp] theorem tag_eq_vhost (k : RecordKind) : k.tag = Bytes.ofString "Vhost" ↔ k = .vhost := by
  cases k <;> decide +kernel

@[simp] theorem tag_eq_context (k : RecordKind) : k.tag = Bytes.ofString "Context" ↔ k = .context := by
  cases k <;> decide +kernel

end RecordKind

namespace InfoError

/-- The line an error names. -/
def line : InfoError → Nat
  | badIdGroup n _ | tooFewIds n _ _ | unknownNode n _ | unknownVirtualHost n _ _ | badStatus n _ => n

/-- The error an error wraps: a malformed record, or a record that references an unknown node or
an unknown virtual host. -/
def wraps : InfoError → String
  | unknownNode .. => "record references unknown node"
  | unknownVirtualHost .. => "record references unknown virtual host"
  | _ => "malformed record"

/-- Every message names its line, then the error it wraps, then what was wrong. -/
theorem message_eq (e : InfoError) :
    ∃ rest, e.message = "line " ++ toString e.line ++ ": " ++ e.wraps ++ ": " ++ rest := by
  have hs : ∀ s : String, toString s = s := fun _ => rfl
  cases e with
  | badIdGroup n g =>
    refine ⟨"id group " ++ Text.quote g, ?_⟩
    simp only [message, line, wraps, hs]
    rw [show ": malformed record: id group " = ": " ++ "malformed record" ++ ": " ++ "id group " by simp]
    simp only [String.append_assoc]
  | tooFewIds n k g =>
    refine ⟨(if k = .context then "context" else "vhost") ++ " id " ++ Text.quote g, ?_⟩
    simp only [message, line, wraps, hs]
    rw [show ": malformed record: " = ": " ++ "malformed record" ++ ": " by simp]
    simp only [String.append_assoc]
  | unknownNode n i =>
    refine ⟨"node " ++ toString i, ?_⟩
    simp only [message, line, wraps, hs]
    rw [show ": record references unknown node: node " =
      ": " ++ "record references unknown node" ++ ": " ++ "node " by simp]
    simp only [String.append_assoc]
  | unknownVirtualHost n i j =>
    refine ⟨"vhost " ++ toString j ++ " of node " ++ toString i, ?_⟩
    simp only [message, line, wraps, hs]
    rw [show ": record references unknown virtual host: vhost " =
      ": " ++ "record references unknown virtual host" ++ ": " ++ "vhost " by simp]
    simp only [String.append_assoc]
  | badStatus n raw =>
    refine ⟨"unknown context status " ++ Text.quote raw, ?_⟩
    simp only [message, line, wraps, hs]
    unfold statusMessage
    rw [show "malformed record: unknown context status " =
      "malformed record" ++ ": " ++ "unknown context status " by simp]
    simp only [String.append_assoc]

end InfoError

namespace Inventory

open Bytes

/-! ### Lines and records -/

/-- The lines of an answer as the reader reads them: split at each line feed, each trimmed. -/
def lines (text : Bytes) : List Bytes := (text.splitOn 0x0A).map Bytes.trimBlank

/-- The record a line holds: the tag and the id group of its first field, and the fields after
it. A line whose first field has no `:` holds none. -/
def record? (line : Bytes) : Option (Bytes × Bytes × List Bytes) :=
  match line.splitOn 0x2C with
  | [] => none
  | first :: fields => (splitPair first).map fun p => (p.1, p.2, fields)

theorem record?_eq_some {line tag group : Bytes} {fields : List Bytes} :
    record? line = some (tag, group, fields) ↔
      ∃ first, line.splitOn 0x2C = first :: fields ∧ splitPair first = some (tag, group) := by
  unfold record?
  split
  · rename_i hs
    simp [hs]
  · rename_i first fs hs
    simp only [hs, List.cons.injEq, Option.map_eq_some_iff, Prod.mk.injEq]
    constructor
    · rintro ⟨⟨t, g⟩, hp, rfl, rfl, rfl⟩
      exact ⟨first, ⟨rfl, rfl⟩, hp⟩
    · rintro ⟨_, ⟨rfl, rfl⟩, hp⟩
      exact ⟨_, hp, rfl, rfl, rfl⟩

theorem readLine_of_record?_none {line : Bytes} (h : record? line = none) (n : Nat) (st : Reading) :
    readLine n st line = .ok st := by
  unfold record? at h
  unfold readLine
  split
  · rfl
  · rename_i first fields hs
    rw [hs, Option.map_eq_none_iff] at h
    simp [h]

/-- A line names node `i`: a `Node` record whose ids start with `i` and that has a `Name`. -/
def NamesNode (line : Bytes) (i : Int) : Prop :=
  ∃ group fields ids, record? line = some (RecordKind.node.tag, group, fields) ∧
    parseIds group = some (i :: ids) ∧ (lookupField fields "Name").isSome

/-- A line opens virtual host `j` of node `i`: a `Vhost` record whose ids start with `i`, `j`. -/
def OpensHost (line : Bytes) (i j : Int) : Prop :=
  ∃ group fields ids, record? line = some (RecordKind.vhost.tag, group, fields) ∧
    parseIds group = some (i :: j :: ids)

theorem namesNode_iff {line tag group : Bytes} {fields : List Bytes}
    (hr : record? line = some (tag, group, fields)) (i : Int) :
    NamesNode line i ↔ tag = RecordKind.node.tag ∧ (∃ ids, parseIds group = some (i :: ids)) ∧
      (lookupField fields "Name").isSome := by
  simp only [NamesNode, hr, Option.some.injEq, Prod.mk.injEq]
  constructor
  · rintro ⟨_, _, ids, ⟨rfl, rfl, rfl⟩, hg, hn⟩
    exact ⟨rfl, ⟨ids, hg⟩, hn⟩
  · rintro ⟨rfl, ⟨ids, hg⟩, hn⟩
    exact ⟨_, _, ids, ⟨rfl, rfl, rfl⟩, hg, hn⟩

theorem opensHost_iff {line tag group : Bytes} {fields : List Bytes}
    (hr : record? line = some (tag, group, fields)) (i j : Int) :
    OpensHost line i j ↔ tag = RecordKind.vhost.tag ∧ ∃ ids, parseIds group = some (i :: j :: ids) := by
  simp only [OpensHost, hr, Option.some.injEq, Prod.mk.injEq]
  constructor
  · rintro ⟨_, _, ids, ⟨rfl, rfl, rfl⟩, hg⟩
    exact ⟨rfl, ids, hg⟩
  · rintro ⟨rfl, ids, hg⟩
    exact ⟨_, _, ids, ⟨rfl, rfl, rfl⟩, hg⟩

/-! ### What stops the reader -/

/-- How line `n` stops the reader, given the nodes (`named`) and the virtual hosts (`opened`) it
knows. A record is checked in this order: its id group, the number of its ids, its node, its
virtual host, and the status of a context. -/
inductive Fault (named : Int → Prop) (opened : Int → Int → Prop) (n : Nat) (line : Bytes) :
    InfoError → Prop
  | badIdGroup {k group fields} : record? line = some (RecordKind.tag k, group, fields) →
      parseIds group = none → Fault named opened n line (.badIdGroup n group)
  | tooFewIds {k group fields ids} : k ≠ .node →
      record? line = some (RecordKind.tag k, group, fields) →
      parseIds group = some ids → ids.length < 2 → Fault named opened n line (.tooFewIds n k group)
  | unknownNode {k group fields i j ids} : k ≠ .node →
      record? line = some (RecordKind.tag k, group, fields) →
      parseIds group = some (i :: j :: ids) → ¬ named i → Fault named opened n line (.unknownNode n i)
  | unknownVirtualHost {group fields i j ids} :
      record? line = some (RecordKind.context.tag, group, fields) →
      parseIds group = some (i :: j :: ids) → named i → ¬ opened i j →
      Fault named opened n line (.unknownVirtualHost n i j)
  | badStatus {group fields i j ids path raw} :
      record? line = some (RecordKind.context.tag, group, fields) →
      parseIds group = some (i :: j :: ids) → named i → opened i j →
      lookupField fields "Context" = some path → lookupField fields "Status" = some raw →
      ContextStatus.parse? raw = none → Fault named opened n line (.badStatus n raw)

theorem Fault.line_eq {named : Int → Prop} {opened : Int → Int → Prop} {n : Nat} {l : Bytes}
    {e : InfoError} (h : Fault named opened n l e) : e.line = n := by
  cases h <;> rfl

namespace Reading

/-- The reading knows a route for node `i`. -/
def HasRoute (st : Reading) (i : Int) : Prop := (st.routes.lookup i).isSome

/-- The reading keeps virtual host `j` of node `i`. -/
def HasHost (st : Reading) (i j : Int) : Prop := (st.hosts.lookup (i, j)).isSome

theorem not_hasRoute {st : Reading} {i : Int} : ¬ st.HasRoute i ↔ st.routes.lookup i = none := by
  simp only [HasRoute, Bool.not_eq_true, Option.isSome_eq_false_iff, Option.isNone_iff_eq_none]

theorem not_hasHost {st : Reading} {i j : Int} : ¬ st.HasHost i j ↔ st.hosts.lookup (i, j) = none := by
  simp only [HasHost, Bool.not_eq_true, Option.isSome_eq_false_iff, Option.isNone_iff_eq_none]

/-- What reading a line adds to what a reading knows: the node the line names and the virtual
host it opens. -/
structure Learns (st st' : Reading) (line : Bytes) : Prop where
  route : ∀ i, st'.HasRoute i ↔ st.HasRoute i ∨ NamesNode line i
  host : ∀ i j, st'.HasHost i j ↔ st.HasHost i j ∨ OpensHost line i j

theorem Learns.of_same {st st' : Reading} {line : Bytes} (hroutes : st'.routes = st.routes)
    (hhosts : st'.hosts = st.hosts) (hn : ∀ i, ¬ NamesNode line i)
    (ho : ∀ i j, ¬ OpensHost line i j) : Learns st st' line where
  route i := by simp [HasRoute, hroutes, hn]
  host i j := by simp [HasHost, hhosts, ho]

theorem Learns.of_record?_none {st : Reading} {line : Bytes} (hr : record? line = none) :
    Learns st st line :=
  .of_same rfl rfl (fun _ ⟨_, _, _, h, _⟩ => by simp [hr] at h)
    (fun _ _ ⟨_, _, _, h, _⟩ => by simp [hr] at h)

end Reading

/-! ### One line read -/

section Step

variable {n : Nat} {st : Reading} {line : Bytes}

theorem fault_of_readLine {e : InfoError} (h : readLine n st line = .error e) :
    Fault st.HasRoute st.HasHost n line e := by
  unfold readLine at h
  split at h
  · cases h
  rename_i first fields hs
  split at h
  · cases h
  rename_i tag group hp
  have hr : record? line = some (tag, group, fields) := record?_eq_some.mpr ⟨first, hs, hp⟩
  split_ifs at h with hnode hvhost hcontext
  · obtain rfl := eq_of_beq hnode
    cases hg : parseIds group with
    | none =>
      simp only [hg, Option.elim, bind, Except.bind, Except.error.injEq] at h
      subst h
      exact .badIdGroup (k := .node) hr hg
    | some ids =>
      simp only [hg, Option.elim, bind, Except.bind] at h
      split at h <;> cases h
  · obtain rfl := eq_of_beq hvhost
    cases hg : parseIds group with
    | none =>
      simp only [hg, Option.elim, bind, Except.bind, Except.error.injEq] at h
      subst h
      exact .badIdGroup (k := .vhost) hr hg
    | some ids =>
      simp only [hg, Option.elim, bind, Except.bind] at h
      split at h
      · rename_i i j rest
        cases hroute : st.routes.lookup i with
        | none =>
          simp only [hroute, Except.error.injEq] at h
          subst h
          exact .unknownNode (k := .vhost) (by decide) hr hg (Reading.not_hasRoute.mpr hroute)
        | some route =>
          simp only [hroute] at h
          split at h <;> (try split at h) <;> cases h
      · -- fewer than two ids
        rename_i hfew
        simp only [Except.error.injEq] at h
        subst h
        exact .tooFewIds (k := .vhost) (by decide) hr hg (by
          rcases ids with _ | ⟨_, _ | ⟨_, _⟩⟩ <;> simp_all)
  · obtain rfl := eq_of_beq hcontext
    cases hg : parseIds group with
    | none =>
      simp only [hg, Option.elim, bind, Except.bind, Except.error.injEq] at h
      subst h
      exact .badIdGroup (k := .context) hr hg
    | some ids =>
      simp only [hg, Option.elim, bind, Except.bind] at h
      split at h
      · rename_i i j rest
        cases hroute : st.routes.lookup i with
        | none =>
          simp only [hroute, Except.error.injEq] at h
          subst h
          exact .unknownNode (k := .context) (by decide) hr hg (Reading.not_hasRoute.mpr hroute)
        | some route =>
          simp only [hroute] at h
          cases hplace : st.hosts.lookup (i, j) with
          | none =>
            simp only [hplace, Except.error.injEq] at h
            subst h
            exact .unknownVirtualHost hr hg (by simp [Reading.HasRoute, hroute])
              (Reading.not_hasHost.mpr hplace)
          | some place =>
            simp only [hplace] at h
            cases hpath : lookupField fields "Context" <;> cases hraw : lookupField fields "Status" <;>
              simp only [hpath, hraw] at h <;> try cases h
            rename_i path raw
            cases hs : ContextStatus.parse? raw with
            | none =>
              simp only [hs, Except.error.injEq] at h
              subst h
              exact .badStatus hr hg (by simp [Reading.HasRoute, hroute])
                (by simp [Reading.HasHost, hplace]) hpath hraw hs
            | some s => simp [hs, pure, Except.pure] at h
      · rename_i hfew
        simp only [Except.error.injEq] at h
        subst h
        exact .tooFewIds (k := .context) (by decide) hr hg (by
          rcases ids with _ | ⟨_, _ | ⟨_, _⟩⟩ <;> simp_all)

theorem readLine_of_fault {e : InfoError} (h : Fault st.HasRoute st.HasHost n line e) :
    readLine n st line = .error e := by
  cases h with
  | badIdGroup hr hg =>
    obtain ⟨first, hs, hp⟩ := record?_eq_some.mp hr
    rename_i k _ _
    cases k <;> simp [readLine, hs, hp, hg, Option.elim, bind, Except.bind]
  | tooFewIds hk hr hg hlen =>
    obtain ⟨first, hs, hp⟩ := record?_eq_some.mp hr
    rename_i k _ _ ids
    rcases ids with _ | ⟨i, _ | ⟨j, rest⟩⟩ <;> cases k <;>
      simp_all [readLine, Option.elim, bind, Except.bind]
  | unknownNode hk hr hg hi =>
    obtain ⟨first, hs, hp⟩ := record?_eq_some.mp hr
    rename_i k _ _ i j _
    have hroute := Reading.not_hasRoute.mp hi
    cases k
    · exact absurd rfl hk
    all_goals simp [readLine, hs, hp, Option.elim, bind, Except.bind, hg, hroute]
  | unknownVirtualHost hr hg hi hj =>
    obtain ⟨first, hs, hp⟩ := record?_eq_some.mp hr
    rename_i i j _
    obtain ⟨route, hroute⟩ := Option.isSome_iff_exists.mp hi
    have hplace := Reading.not_hasHost.mp hj
    simp [readLine, hs, hp, Option.elim, bind, Except.bind, hg, hroute, hplace]
  | badStatus hr hg hi hj hpath hraw hs =>
    obtain ⟨first, hsplit, hp⟩ := record?_eq_some.mp hr
    rename_i i j _ _ _
    obtain ⟨route, hroute⟩ := Option.isSome_iff_exists.mp hi
    obtain ⟨place, hplace⟩ := Option.isSome_iff_exists.mp hj
    simp [readLine, hsplit, hp, Option.elim, bind, Except.bind, hg, hroute, hplace, hpath, hraw, hs]

/-- A line the reader gets through adds to what it knows the node the line names and the
virtual host it opens, and nothing else. -/
theorem readLine_learns {st' : Reading} (h : readLine n st line = .ok st') : st.Learns st' line := by
  unfold readLine at h
  split at h
  · rename_i hs
    cases h
    exact .of_record?_none (by simp [record?, hs])
  rename_i first fields hs
  split at h
  · rename_i hp
    cases h
    exact .of_record?_none (by simp [record?, hs, hp])
  rename_i tag group hp
  have hr : record? line = some (tag, group, fields) := record?_eq_some.mpr ⟨first, hs, hp⟩
  split_ifs at h with hnode hvhost hcontext
  · have htag : tag = RecordKind.node.tag := eq_of_beq hnode
    subst htag
    have hno : ∀ i j, ¬ OpensHost line i j := fun i j hij =>
      absurd (RecordKind.tag_inj.mp ((opensHost_iff hr i j).mp hij).1) (by decide)
    cases hg : parseIds group with
    | none => simp [hg, Option.elim, bind, Except.bind] at h
    | some ids =>
      simp only [hg, Option.elim, bind, Except.bind] at h
      cases hname : lookupField fields "Name" with
      | none =>
        simp only [hname] at h
        cases h
        refine .of_same rfl rfl (fun i hi => ?_) hno
        simpa [hname] using ((namesNode_iff hr i).mp hi).2.2
      | some route =>
        obtain _ | ⟨id, rest⟩ := ids
        · simp only [hname] at h
          cases h
          refine .of_same rfl rfl (fun i hi => ?_) hno
          obtain ⟨_, ⟨_, hids⟩, _⟩ := (namesNode_iff hr i).mp hi
          simp [hg] at hids
        simp only [hname] at h
        cases h
        constructor
        · intro i
          by_cases hi : i = id
          · subst hi
            simp [Reading.HasRoute, namesNode_iff hr, hg, hname]
          · simp [Reading.HasRoute, namesNode_iff hr, hg, hname, hi, Ne.symm hi]
        · intro i j
          simp [Reading.HasHost, hno]
  · have htag : tag = RecordKind.vhost.tag := eq_of_beq hvhost
    subst htag
    have hnn : ∀ i, ¬ NamesNode line i := fun i hi =>
      absurd (RecordKind.tag_inj.mp ((namesNode_iff hr i).mp hi).1) (by decide)
    cases hg : parseIds group with
    | none => simp [hg, Option.elim, bind, Except.bind] at h
    | some ids =>
      simp only [hg, Option.elim, bind, Except.bind] at h
      obtain _ | ⟨i, _ | ⟨j, rest⟩⟩ := ids
      · cases h
      · cases h
      cases hroute : st.routes.lookup i with
      | none => simp [hroute] at h
      | some route =>
        simp only [hroute] at h
        have hopen : ∀ i' j', OpensHost line i' j' ↔ i = i' ∧ j = j' := by
          simp [opensHost_iff hr, hg]
        cases hplace : st.hosts.lookup (i, j) with
        | some place =>
          simp only [hplace] at h
          have hsame : st'.routes = st.routes ∧ st'.hosts = st.hosts := by
            split at h
            · split at h <;> cases h <;> simp
            · cases h
              simp
          refine ⟨fun i' => by simp [Reading.HasRoute, hsame.1, hnn], fun i' j' => ?_⟩
          simp only [Reading.HasHost, hsame.2, hopen]
          constructor
          · exact .inl
          · rintro (hij | ⟨rfl, rfl⟩)
            · exact hij
            · simp [hplace]
        | none =>
          simp only [hplace] at h
          have hsame : st'.routes = st.routes ∧
              st'.hosts = ((i, j), route, (st.inv.vhostsOf route).length) :: st.hosts := by
            split at h
            · split at h <;> cases h <;> simp
            · cases h
              simp
          refine ⟨fun i' => by simp [Reading.HasRoute, hsame.1, hnn], fun i' j' => ?_⟩
          by_cases hij : i = i' ∧ j = j'
          · obtain ⟨rfl, rfl⟩ := hij
            simp [Reading.HasHost, hsame.2, hopen]
          · have hne : ((i', j') == (i, j)) = false := beq_false_of_ne fun e =>
              hij ⟨(Prod.mk.inj e).1.symm, (Prod.mk.inj e).2.symm⟩
            simp only [Reading.HasHost, hsame.2, hopen, hij, or_false, List.lookup_cons, hne]
  · have htag : tag = RecordKind.context.tag := eq_of_beq hcontext
    subst htag
    have hsame : st'.routes = st.routes ∧ st'.hosts = st.hosts := by
      cases hg : parseIds group with
      | none => simp [hg, Option.elim, bind, Except.bind] at h
      | some ids =>
        simp only [hg, Option.elim, bind, Except.bind] at h
        repeat' split at h
        all_goals first | (cases h; simp) | cases h
    exact .of_same hsame.1 hsame.2
      (fun i hi => absurd (RecordKind.tag_inj.mp ((namesNode_iff hr i).mp hi).1) (by decide))
      (fun i j hij => absurd (RecordKind.tag_inj.mp ((opensHost_iff hr i j).mp hij).1) (by decide))
  · cases h
    refine .of_same rfl rfl (fun i hi => ?_) (fun i j hij => ?_)
    · exact hnode (beq_iff_eq.mpr ((namesNode_iff hr i).mp hi).1)
    · exact hvhost (beq_iff_eq.mpr ((opensHost_iff hr i j).mp hij).1)

end Step

/-! ### What the earlier lines leave known -/

/-- The nodes that some of the lines name. -/
def NamedBy (ls : List Bytes) (i : Int) : Prop := ∃ l ∈ ls, NamesNode l i

/-- The virtual hosts that some of the lines open. -/
def OpenedBy (ls : List Bytes) (i j : Int) : Prop := ∃ l ∈ ls, OpensHost l i j

/-- Line `l`, read after the lines `earlier` and so numbered `earlier.length + 1`, stops the
reader with `e`. -/
def Stops (earlier : List Bytes) (l : Bytes) (e : InfoError) : Prop :=
  Fault (NamedBy earlier) (OpenedBy earlier) (earlier.length + 1) l e

/-- No line stops the reader. -/
def Clean (ls : List Bytes) : Prop := ∀ pre l post, ls = pre ++ l :: post → ∀ e, ¬ Stops pre l e

namespace Reading

/-- A reading remembers the nodes and the virtual hosts that the lines read so far name and
open, and no others. -/
structure Remembers (st : Reading) (ls : List Bytes) : Prop where
  route : ∀ i, st.HasRoute i ↔ NamedBy ls i
  host : ∀ i j, st.HasHost i j ↔ OpenedBy ls i j

theorem remembers_nil : ({} : Reading).Remembers [] where
  route i := by simp [HasRoute, NamedBy]
  host i j := by simp [HasHost, OpenedBy]

theorem Remembers.fault_iff {st : Reading} {ls : List Bytes} (hk : st.Remembers ls) {n : Nat}
    {l : Bytes} {e : InfoError} :
    Fault st.HasRoute st.HasHost n l e ↔ Fault (NamedBy ls) (OpenedBy ls) n l e := by
  have hn : st.HasRoute = NamedBy ls := funext fun i => propext (hk.route i)
  have ho : st.HasHost = OpenedBy ls := funext fun i => funext fun j => propext (hk.host i j)
  rw [hn, ho]

theorem Remembers.learns {st st' : Reading} {ls : List Bytes} {l : Bytes} (hk : st.Remembers ls)
    (hl : st.Learns st' l) : st'.Remembers (ls ++ [l]) where
  route i := by simp [hl.route, hk.route, NamedBy, or_and_right, exists_or]
  host i j := by simp [hl.host, hk.host, OpenedBy, or_and_right, exists_or]

end Reading

theorem readLine_eq_error_iff {st : Reading} {ls : List Bytes} (hk : st.Remembers ls) (l : Bytes)
    (e : InfoError) : readLine (ls.length + 1) st l = .error e ↔ Stops ls l e := by
  rw [Stops, ← hk.fault_iff]
  exact ⟨fault_of_readLine, readLine_of_fault⟩

theorem readLine_ok_iff {st : Reading} {ls : List Bytes} (hk : st.Remembers ls) (l : Bytes) :
    (∃ st', readLine (ls.length + 1) st l = .ok st') ↔ ∀ e, ¬ Stops ls l e := by
  simp only [← readLine_eq_error_iff hk]
  cases readLine (ls.length + 1) st l <;> simp

/-! ### The first line that stops the reader -/

theorem clean_nil : Clean [] := fun pre l post h => by simp at h

theorem eq_append_cons_of_concat {ls pre post : List Bytes} {l l' : Bytes}
    (h : ls ++ [l] = pre ++ l' :: post) : (pre = ls ∧ l' = l) ∨ ∃ post', ls = pre ++ l' :: post' := by
  rcases List.eq_nil_or_concat post with rfl | ⟨post', x, rfl⟩
  · obtain ⟨h1, h2⟩ := List.append_inj' h rfl
    exact .inl ⟨h1.symm, (List.singleton_inj.mp h2).symm⟩
  · have h2 : ls ++ [l] = (pre ++ l' :: post') ++ [x] := by simpa using h
    exact .inr ⟨post', (List.append_inj' h2 rfl).1⟩

theorem clean_concat {ls : List Bytes} {l : Bytes} :
    Clean (ls ++ [l]) ↔ Clean ls ∧ ∀ e, ¬ Stops ls l e := by
  constructor
  · intro h
    exact ⟨fun pre l' post hp => h pre l' (post ++ [l]) (by simp [hp]), h ls l [] rfl⟩
  · rintro ⟨hc, hl⟩ pre l' post hp
    rcases eq_append_cons_of_concat hp with ⟨rfl, rfl⟩ | ⟨post', hp'⟩
    · exact hl
    · exact hc pre l' post' hp'

theorem firstStop_concat {ls : List Bytes} {l : Bytes} {e : InfoError} :
    (∃ pre l' post, ls ++ [l] = pre ++ l' :: post ∧ Clean pre ∧ Stops pre l' e) ↔
      (∃ pre l' post, ls = pre ++ l' :: post ∧ Clean pre ∧ Stops pre l' e) ∨
        (Clean ls ∧ Stops ls l e) := by
  constructor
  · rintro ⟨pre, l', post, hp, hc, hs⟩
    rcases eq_append_cons_of_concat hp with ⟨rfl, rfl⟩ | ⟨post', hp'⟩
    · exact .inr ⟨hc, hs⟩
    · exact .inl ⟨pre, l', post', hp', hc, hs⟩
  · rintro (⟨pre, l', post, rfl, hc, hs⟩ | ⟨hc, hs⟩)
    · exact ⟨pre, l', post ++ [l], by simp, hc, hs⟩
    · exact ⟨ls, l, [], rfl, hc, hs⟩

/-! ### A whole answer -/

/-- Reads trimmed lines in turn, numbered from 1, from an empty reading. -/
def readLines (ls : List Bytes) : Except InfoError Reading :=
  ls.zipIdx.foldlM (fun st x => readLine (x.2 + 1) st x.1) {}

/-- A row of white space is skipped as the reader skips any line that holds no record. -/
theorem readRow_eq (st : Reading) (row : Bytes × Nat) :
    Info.readRow st row = readLine (row.2 + 1) st (Bytes.trimBlank row.1) := by
  unfold Info.readRow
  split
  · rename_i h
    rw [List.isEmpty_iff.mp h]
    exact (readLine_of_record?_none rfl _ _).symm
  · rfl

theorem parse_eq_readLines (text : Bytes) : parse text = (readLines (lines text)).map (·.inv) := by
  rw [Info.parse_eq_foldlM, readLines, lines, List.zipIdx_map, List.foldlM_map]
  congr 2
  funext st row
  exact readRow_eq st row

theorem readLines_concat (ls : List Bytes) (l : Bytes) :
    readLines (ls ++ [l]) = readLines ls >>= fun st => readLine (ls.length + 1) st l := by
  simp [readLines, List.zipIdx_append, List.foldlM_append]

/-- Reading lines in turn succeeds exactly when no line stops it, and then remembers what the
lines name and open; it fails with the error of the first line that stops it. -/
theorem readLines_spec (ls : List Bytes) :
    (∀ st, readLines ls = .ok st → st.Remembers ls) ∧ ((∃ st, readLines ls = .ok st) ↔ Clean ls) ∧
      ∀ e, readLines ls = .error e ↔ ∃ pre l post, ls = pre ++ l :: post ∧ Clean pre ∧ Stops pre l e := by
  -- by induction on the lines read, the last one added at the end
  induction ls using List.reverseRecOn with
  | nil =>
    refine ⟨fun st h => ?_, ⟨fun _ => clean_nil, fun _ => ⟨{}, rfl⟩⟩, fun e => ?_⟩
    · cases h
      exact Reading.remembers_nil
    · constructor
      · intro h
        cases h
      · rintro ⟨pre, l, post, h, -⟩
        simp at h
  | append_singleton ls l ih =>
    obtain ⟨hknows, hclean, herror⟩ := ih
    simp only [readLines_concat]
    cases hls : readLines ls with
    | error e₀ =>
      have hnc : ¬ Clean ls := fun hc => by
        obtain ⟨pre, l', post, hp, -, hs⟩ := (herror e₀).mp hls
        exact hc pre l' post hp e₀ hs
      simp only [bind, Except.bind]
      refine ⟨fun st h => (nomatch h), ⟨fun ⟨st, h⟩ => (nomatch h),
        fun hc => absurd (clean_concat.mp hc).1 hnc⟩, fun e => ?_⟩
      rw [firstStop_concat, ← herror, hls]
      simp [hnc]
    | ok st =>
      have hk := hknows st hls
      have hc := hclean.mp ⟨st, hls⟩
      simp only [bind, Except.bind]
      refine ⟨fun st' h => hk.learns (readLine_learns h), ?_, fun e => ?_⟩
      · rw [clean_concat, and_iff_right hc, readLine_ok_iff hk]
      · have hfirst : ¬ ∃ pre l' post, ls = pre ++ l' :: post ∧ Clean pre ∧ Stops pre l' e :=
          fun ⟨pre, l', post, hp, _, hs⟩ => hc pre l' post hp e hs
        rw [readLine_eq_error_iff hk, firstStop_concat, or_iff_right hfirst, and_iff_right hc]

/-- Reading an answer fails exactly at the first line that stops the reader, with that line's
error, and gives an inventory exactly when no line stops it. The message of the error names the
line, counted from 1 with blank lines, and the error it wraps. -/
theorem parse_fails_at_first_faulty_line (text : Bytes) :
    (∀ e, parse text = .error e ↔
      ∃ pre l post, lines text = pre ++ l :: post ∧ Clean pre ∧ Stops pre l e) ∧
    ((∃ inv, parse text = .ok inv) ↔ Clean (lines text)) ∧
    ∀ pre l e, Stops pre l e →
      ∃ rest, e.message = "line " ++ toString (pre.length + 1) ++ ": " ++ e.wraps ++ ": " ++ rest := by
  obtain ⟨-, hclean, herror⟩ := readLines_spec (lines text)
  refine ⟨fun e => ?_, ?_, fun pre l e hs => ?_⟩
  · rw [← herror, parse_eq_readLines]
    cases readLines (lines text) <;> simp [Except.map]
  · rw [← hclean, parse_eq_readLines]
    cases readLines (lines text) <;> simp [Except.map]
  · rw [← Fault.line_eq hs]
    exact e.message_eq

example : parse (ofString "Node: [1], Name: a\n\nContext: [1:2], Context: /, Status: ENABLED") =
    .error (.unknownVirtualHost 3 1 2) := by
  decide +kernel

end Inventory

end ClusterAgent
