import Mathlib.Data.String.Basic
import TailView.Proofs.Reading
import TailView.Toml.Document

/-!
# Tables in the order of their keys

Every table of a document that was read, at any depth, has its keys in ascending order, so that no
key occurs twice.  Tables grow by insertion only, and insertion keeps the order.
-/

namespace TailView
namespace Toml

/-- What every step keeps holds after all steps, if none of them fails. -/
theorem holds_of_foldlM
    {σ α : Type}
    {step : σ → α → Option σ}
    {Holds : σ → Prop}
    {Fits : α → Prop}
    (keeps : ∀ state item next, Holds state → Fits item → step state item = some next → Holds next)
    {items : List α}
    {start last : σ}
    (fit : ∀ item ∈ items, Fits item)
    (holds : Holds start)
    (folded : items.foldlM step start = some last) :
    Holds last := by
  induction items generalizing start with
  | nil =>
      cases folded
      exact holds
  | cons item rest inductionHypothesis =>
      rw [List.forall_mem_cons] at fit
      rw [List.foldlM_cons] at folded
      obtain ⟨next, here, later⟩ := Option.bind_eq_some_iff.mp folded
      exact inductionHypothesis fit.2 (keeps start item next holds fit.1 here) later

namespace Entries

variable {α β : Type} {entries : Entries α} {key : String} {value : α}

/-- The keys ascend. -/
def Sorted (entries : Entries α) : Prop := entries.Pairwise fun first second => first.1 < second.1

theorem Sorted.nodup_keys (sorted : entries.Sorted) : (entries.map (·.1)).Nodup :=
  List.pairwise_map.mpr (sorted.imp ne_of_lt)

/-- Values do not matter for the order. -/
theorem Sorted.map (sorted : entries.Sorted) (change : α → β) :
    Sorted (entries.map fun entry => (entry.1, change entry.2)) :=
  List.pairwise_map.mpr sorted

/-- What is in a table after an insertion is the new entry or was there before. -/
theorem mem_insert {entry : String × α} (member : entry ∈ entries.insert key value) :
    entry = (key, value) ∨ entry ∈ entries := by
  induction entries with
  | nil => exact .inl (List.mem_singleton.mp member)
  | cons first rest inductionHypothesis =>
      obtain ⟨name, old⟩ := first
      rw [insert] at member
      split at member
      · exact (List.mem_cons.mp member).imp_right fun later => List.mem_cons_of_mem _ later
      · split at member
        · exact List.mem_cons.mp member
        · rcases List.mem_cons.mp member with rfl | later
          · exact .inr (List.mem_cons_self ..)
          · exact (inductionHypothesis later).imp_right fun old => List.mem_cons_of_mem _ old

/-- Insertion keeps the order. -/
theorem Sorted.insert (sorted : entries.Sorted) (key : String) (value : α) :
    (entries.insert key value).Sorted := by
  induction entries with
  | nil => exact List.pairwise_singleton _ _
  | cons first rest inductionHypothesis =>
      obtain ⟨name, old⟩ := first
      obtain ⟨below, restSorted⟩ := List.pairwise_cons.mp sorted
      rw [Entries.insert]
      split
      · next same =>
          subst same
          exact List.pairwise_cons.mpr ⟨below, restSorted⟩
      · next different =>
          split
          · next before =>
              refine List.pairwise_cons.mpr ⟨?_, sorted⟩
              rw [List.forall_mem_cons]
              exact ⟨before, fun entry member => before.trans (below entry member)⟩
          · next notBefore =>
              refine List.pairwise_cons.mpr ⟨?_, inductionHypothesis restSorted⟩
              intro entry member
              rcases mem_insert member with rfl | old
              · exact lt_of_le_of_ne (not_lt.mp notBefore) different
              · exact below entry old

/-- Insertion keeps what holds of all values. -/
theorem forall_mem_insert
    {Holds : α → Prop}
    (all : ∀ entry ∈ entries, Holds entry.2)
    (new : Holds value) :
    ∀ entry ∈ entries.insert key value, Holds entry.2 := by
  intro entry member
  rcases mem_insert member with rfl | old
  · exact new
  · exact all entry old

theorem mem_of_get? (found : entries.get? key = some value) : (key, value) ∈ entries := by
  induction entries with
  | nil => cases found
  | cons first rest inductionHypothesis =>
      obtain ⟨name, old⟩ := first
      rw [get?_cons] at found
      split at found
      · next same =>
          cases found
          rw [same]
          exact List.mem_cons_self ..
      · exact List.mem_cons_of_mem _ (inductionHypothesis found)

/-- In a table in order the entries are the keys that are found, with their values. -/
theorem Sorted.get?_eq_some_iff (sorted : entries.Sorted) :
    entries.get? key = some value ↔ (key, value) ∈ entries := by
  refine ⟨mem_of_get?, fun member => ?_⟩
  induction entries with
  | nil => cases member
  | cons first rest inductionHypothesis =>
      obtain ⟨name, old⟩ := first
      obtain ⟨below, restSorted⟩ := List.pairwise_cons.mp sorted
      rw [get?_cons]
      rcases List.mem_cons.mp member with same | later
      · cases same
        exact if_pos rfl
      · have before : name < key := below (key, value) later
        rw [if_neg before.ne]
        exact inductionHypothesis restSorted later

/-- Two tables in order in which every key finds the same are the same table. -/
theorem Sorted.ext
    {others : Entries α}
    (sorted : entries.Sorted)
    (otherSorted : others.Sorted)
    (same : ∀ key, entries.get? key = others.get? key) :
    entries = others := by
  have members : ∀ entry, entry ∈ entries ↔ entry ∈ others := by
    rintro ⟨key, value⟩
    rw [← sorted.get?_eq_some_iff, ← otherSorted.get?_eq_some_iff, same]
  have once : ∀ {table : Entries α}, table.Sorted → table.Nodup := fun inOrder =>
    List.Pairwise.imp (fun before same => before.ne (congrArg Prod.fst same)) inOrder
  have permuted : entries.Perm others :=
    (List.perm_ext_iff_of_nodup (once sorted) (once otherSorted)).mpr members
  exact permuted.eq_of_pairwise
    (fun _ _ _ _ before after => absurd after (lt_asymm before)) sorted otherSorted

end Entries

/-! ## Values and documents under construction -/

/-- In every table of a value the keys ascend. -/
inductive Value.Sorted : Value → Prop
  | string (text : String) : Value.Sorted (.string text)
  | integer (n : Int) : Value.Sorted (.integer n)
  | float (x : Number.Binary64) : Value.Sorted (.float x)
  | boolean (b : Bool) : Value.Sorted (.boolean b)
  | datetime (time : Datetime) : Value.Sorted (.datetime time)
  | array {items : List Value} : (∀ item ∈ items, Value.Sorted item) → Value.Sorted (.array items)
  | table {entries : List (String × Value)} :
      Entries.Sorted entries → (∀ entry ∈ entries, Value.Sorted entry.2) →
      Value.Sorted (.table entries)

theorem Value.sorted_table_iff {entries : Table} :
    (Value.table entries).Sorted ↔
      Entries.Sorted entries ∧ ∀ entry ∈ entries, entry.2.Sorted := by
  constructor
  · intro sorted
    cases sorted with
    | table keys values => exact ⟨keys, values⟩
  · rintro ⟨keys, values⟩
    exact .table keys values

/-- In every table that a node holds the keys ascend. -/
inductive Node.Sorted : Node → Prop
  | value {value : Value} : value.Sorted → Node.Sorted (.value value)
  | table {origin : Origin} {entries : List (String × Node)} :
      Entries.Sorted entries → (∀ entry ∈ entries, Node.Sorted entry.2) →
      Node.Sorted (.table origin entries)
  | elements {tables : List (List (String × Node))} :
      (∀ entries ∈ tables, Entries.Sorted entries) →
      (∀ entries ∈ tables, ∀ entry ∈ entries, Node.Sorted entry.2) →
      Node.Sorted (.elements tables)

namespace Growth

variable {entries grown : Growth} {path : KeyPath} {value : Value}

/-- In a table under construction, and in all that it holds, the keys ascend. -/
structure Sorted (entries : Growth) : Prop where
  /-- The keys of the table ascend. -/
  keys : Entries.Sorted entries
  /-- So do those in its nodes. -/
  nodes : ∀ entry ∈ entries, Node.Sorted entry.2

theorem toTable_eq (entries : Growth) :
    toTable entries = entries.map fun entry => (entry.1, entry.2.toValue) := by
  induction entries with
  | nil => rw [toTable, List.map_nil]
  | cons entry rest inductionHypothesis =>
      rw [toTable, inductionHypothesis, List.map_cons]

theorem toItems_eq (tables : List Growth) (items : List Value) :
    toItems tables items = (tables.map fun table => .table (toTable table)).reverse ++ items := by
  induction tables generalizing items with
  | nil => rw [toItems, List.map_nil, List.reverse_nil, List.nil_append]
  | cons table earlier inductionHypothesis =>
      rw [toItems, inductionHypothesis, List.map_cons, List.reverse_cons, List.append_assoc,
        List.singleton_append]

theorem sorted_nil : Sorted [] := ⟨List.Pairwise.nil, nofun⟩

theorem Sorted.insert {key : String} {node : Node} (sorted : entries.Sorted) (new : node.Sorted) :
    Sorted (Entries.insert entries key node) :=
  ⟨sorted.keys.insert key node, Entries.forall_mem_insert sorted.nodes new⟩

end Growth

/-- The value of a node in order is in order. -/
theorem Node.Sorted.toValue {node : Node} (sorted : node.Sorted) : node.toValue.Sorted := by
  induction sorted with
  | value sorted =>
      rw [Node.toValue]
      exact sorted
  | table keys _ inductionHypothesis =>
      rw [Node.toValue, Growth.toTable_eq]
      refine .table (keys.map Node.toValue) ?_
      rw [List.forall_mem_map]
      exact inductionHypothesis
  | elements keys _ inductionHypothesis =>
      rw [Node.toValue, Growth.toItems_eq, List.append_nil]
      refine .array ?_
      simp only [List.mem_reverse]
      rw [List.forall_mem_map]
      intro entries member
      rw [Growth.toTable_eq]
      refine .table ((keys entries member).map Node.toValue) ?_
      rw [List.forall_mem_map]
      exact inductionHypothesis entries member

namespace Growth

variable {entries grown : Growth} {path : KeyPath} {value : Value}

theorem Sorted.toTable (sorted : entries.Sorted) : (Value.table (toTable entries)).Sorted := by
  have node : (Node.table .headed entries).Sorted := .table sorted.keys sorted.nodes
  have value := node.toValue
  rwa [Node.toValue] at value

/-- A change at the end of a path keeps the order if it keeps that of the table there. -/
theorem Sorted.changeAt
    {step origin : Origin}
    {change : Origin → Growth → Option Growth}
    {keys : List String}
    (keeps : ∀ origin inner changed, inner.Sorted → change origin inner = some changed →
      changed.Sorted)
    (sorted : entries.Sorted)
    (changed : changeAt step change keys origin entries = some grown) :
    grown.Sorted := by
  induction keys generalizing origin entries grown with
  | nil => exact keeps origin entries grown sorted changed
  | cons key rest inductionHypothesis =>
      rw [Growth.changeAt] at changed
      split at changed
      · next absent =>
          obtain ⟨inner, innerChanged, rfl⟩ := Option.map_eq_some_iff.mp changed
          have innerSorted := inductionHypothesis sorted_nil innerChanged
          exact sorted.insert (.table innerSorted.keys innerSorted.nodes)
      · cases changed
      · cases changed
      · next latest earlier found =>
          cases sorted.nodes _ (Entries.mem_of_get? found) with
          | elements innerKeys innerNodes =>
              rw [List.forall_mem_cons] at innerKeys innerNodes
              obtain ⟨inner, innerChanged, rfl⟩ := Option.map_eq_some_iff.mp changed
              have innerSorted := inductionHypothesis ⟨innerKeys.1, innerNodes.1⟩ innerChanged
              refine sorted.insert (.elements ?_ ?_)
              · rw [List.forall_mem_cons]
                exact ⟨innerSorted.keys, innerKeys.2⟩
              · rw [List.forall_mem_cons]
                exact ⟨innerSorted.nodes, innerNodes.2⟩
      · next innerOrigin inner found =>
          cases sorted.nodes _ (Entries.mem_of_get? found) with
          | table innerKeys innerNodes =>
              split at changed
              · cases changed
              · obtain ⟨inner, innerChanged, rfl⟩ := Option.map_eq_some_iff.mp changed
                have innerSorted := inductionHypothesis ⟨innerKeys, innerNodes⟩ innerChanged
                exact sorted.insert (.table innerSorted.keys innerSorted.nodes)

theorem Sorted.assign
    (sorted : entries.Sorted)
    (new : value.Sorted)
    (assigned : assign path value entries = some grown) :
    grown.Sorted := by
  refine sorted.changeAt (fun origin inner changed innerSorted added => ?_) assigned
  split at added
  · cases added
  · unfold add at added
    split at added
    · cases added
      exact innerSorted.insert (.value new)
    · cases added

theorem Sorted.assignUnder
    {section? : Option KeyPath}
    (sorted : entries.Sorted)
    (new : value.Sorted)
    (assigned : assignUnder section? path value entries = some grown) :
    grown.Sorted := by
  unfold Growth.assignUnder at assigned
  split at assigned
  · exact sorted.assign new assigned
  · exact sorted.changeAt (fun _ _ _ innerSorted added => innerSorted.assign new added) assigned

theorem Sorted.head (sorted : entries.Sorted) (headed : head path entries = some grown) :
    grown.Sorted := by
  refine sorted.changeAt (fun origin inner changed innerSorted added => ?_) headed
  split at added
  · cases added
    exact innerSorted.insert (.table List.Pairwise.nil nofun)
  · next found here =>
      cases added
      cases innerSorted.nodes _ (Entries.mem_of_get? here) with
      | table keys nodes => exact innerSorted.insert (.table keys nodes)
  · cases added

theorem Sorted.startElement
    (sorted : entries.Sorted)
    (started : startElement path entries = some grown) :
    grown.Sorted := by
  refine sorted.changeAt (fun origin inner changed innerSorted added => ?_) started
  split at added
  · cases added
    refine innerSorted.insert (.elements ?_ ?_)
    · rw [List.forall_mem_singleton]
      exact List.Pairwise.nil
    · rw [List.forall_mem_singleton]
      exact nofun
  · next tables here =>
      cases added
      cases innerSorted.nodes _ (Entries.mem_of_get? here) with
      | elements keys nodes =>
          refine innerSorted.insert (.elements ?_ ?_)
          · rw [List.forall_mem_cons]
            exact ⟨List.Pairwise.nil, keys⟩
          · rw [List.forall_mem_cons]
            exact ⟨nofun, nodes⟩
  · cases added

end Growth

/-! ## Reading -/

open Text Text.Reader

/-- Scalars hold no tables. -/
theorem yields_scalar : Yields Scalar.read Value.Sorted := by
  unfold Scalar.read
  refine .after peek fun next => ?_
  cases next with
  | none => exact yields_failure
  | some c =>
      simp only
      split
      · exact .after _ fun text => .pure (.string text)
      · split
        · exact .after _ fun b => .pure (.boolean b)
        · split
          · exact .after _ fun x => .pure (.float x)
          · refine .orElse ?_ (.orElse ?_ (.orElse ?_ ?_))
            · exact (yields_true _).map fun time _ => .datetime time
            · exact (yields_true _).map fun x _ => .float x
            · exact (yields_true _).map fun x _ => .float x
            · exact (yields_true _).map fun n _ => .integer n

namespace Expression

variable {value : Reader Value}

theorem yields_array (yields : Yields value Value.Sorted) : Yields (array value) Value.Sorted := by
  have items : Yields (item value) Value.Sorted := by
    unfold item
    exact .after gap fun _ => yields.bind fun found sorted => .after gap fun _ => .pure sorted
  unfold array
  refine .after _ fun _ => (items.separated _).bind fun found sorted => ?_
  simp only
  split
  · exact .after _ fun _ => .after _ fun _ => .after _ fun _ => .pure (.array sorted)
  · exact .after _ fun _ => .after _ fun _ => .pure (.array sorted)

theorem yields_pair (yields : Yields value Value.Sorted) :
    Yields (pair value) fun found => found.2.Sorted := by
  unfold pair
  exact .after _ fun path => .after _ fun _ => .after _ fun _ =>
    yields.bind fun found sorted => .pure sorted

theorem yields_inlineTable (yields : Yields value Value.Sorted) :
    Yields (inlineTable value) Value.Sorted := by
  have pairs : Yields (do let found ← pair value; blanks; return found)
      fun found => found.2.Sorted :=
    (yields_pair yields).bind fun found sorted => .after blanks fun _ => .pure sorted
  unfold inlineTable
  refine .after _ fun _ => (pairs.separated _).bind fun found sorted => ?_
  refine .after _ fun _ => .after _ fun _ => ?_
  split
  · next entries folded =>
      have grown := holds_of_foldlM
        (fun _ _ _ growing new assigned => Growth.Sorted.assign growing new assigned)
        sorted Growth.sorted_nil folded
      exact .pure grown.toTable
  · exact yields_failure

theorem yields_valueWithin (depth : Nat) : Yields (valueWithin depth) Value.Sorted := by
  induction depth with
  | zero => exact yields_scalar
  | succ depth inductionHypothesis =>
      unfold valueWithin
      refine .after peek fun next => ?_
      split
      · exact yields_array inductionHypothesis
      · exact yields_inlineTable inductionHypothesis
      · exact yields_scalar

/-- What an expression assigns is in order. -/
def Sorted : Expression → Prop
  | .assignment _ value => value.Sorted
  | _ => True

theorem yields_readExpression : Yields readExpression Sorted := by
  have headings : Yields readHeading Sorted := by
    unfold readHeading
    refine .after _ fun _ => .after _ fun next => ?_
    split
    · exact .after _ fun path => .after _ fun _ => .pure trivial
    · exact .after _ fun path => .after _ fun _ => .pure trivial
  unfold readExpression
  refine .after peek fun next => ?_
  split
  · exact headings
  · exact (yields_pair (yields_valueWithin maxDepth)).bind fun found sorted => .pure sorted

theorem yields_line : Yields line fun found => ∀ expression ∈ found, Sorted expression := by
  have ends : ∀ found : Option Expression, (∀ expression ∈ found, Sorted expression) →
      Yields (do lineEnd; return found) fun found => ∀ expression ∈ found, Sorted expression :=
    fun found sorted => .after lineEnd fun _ => .pure sorted
  have readSome : Yields (some <$> readExpression)
      fun found => ∀ expression ∈ found, Sorted expression := by
    refine yields_readExpression.map fun expression sorted => ?_
    rintro other same
    cases same
    exact sorted
  unfold line
  refine .after _ fun _ => .after peek fun next => ?_
  split
  · exact yields_failure
  · dsimp only
    split
    · exact ends none nofun
    · exact readSome.bind ends

theorem yields_all : Yields all fun found => ∀ expression ∈ found, Sorted expression := by
  unfold all
  refine .after _ fun _ => yields_line.many.bind fun lines sorted => .after _ fun _ => .pure ?_
  intro expression member
  obtain ⟨found, foundMember, same⟩ := List.mem_filterMap.mp member
  exact sorted found foundMember expression same

end Expression

/-- An expression that is in order keeps the draft in order. -/
theorem Draft.sorted_add
    {draft grown : Draft}
    {expression : Expression}
    (sorted : draft.entries.Sorted)
    (new : expression.Sorted)
    (added : draft.add expression = some grown) :
    grown.entries.Sorted := by
  cases expression with
  | heading path =>
      obtain ⟨entries, headed, same⟩ := Option.bind_eq_some_iff.mp added
      cases same
      exact sorted.head headed
  | element path =>
      obtain ⟨entries, started, same⟩ := Option.bind_eq_some_iff.mp added
      cases same
      exact sorted.startElement started
  | assignment path value =>
      obtain ⟨entries, assigned, same⟩ := Option.bind_eq_some_iff.mp added
      cases same
      exact sorted.assignUnder new assigned

/-- The table of expressions that are in order is in order. -/
theorem sorted_ofExpressions?
    {expressions : List Expression}
    {table : Table}
    (sorted : ∀ expression ∈ expressions, expression.Sorted)
    (found : Table.ofExpressions? expressions = some table) :
    (Value.table table).Sorted := by
  obtain ⟨draft, folded, rfl⟩ := Option.map_eq_some_iff.mp found
  have built : draft.entries.Sorted := holds_of_foldlM
    (fun _ _ _ growing new added => Draft.sorted_add growing new added)
    sorted Growth.sorted_nil folded
  exact built.toTable

/-- Every document that is read is in order. -/
theorem sorted_parse? {text : String} {table : Table} (found : Table.parse? text = some table) :
    (Value.table table).Sorted := by
  obtain ⟨expressions, read, built⟩ := Option.bind_eq_some_iff.mp found
  exact sorted_ofExpressions? (Expression.yields_all.whole? read) built

end Toml
end TailView
