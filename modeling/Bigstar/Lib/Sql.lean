import Mathlib.Data.List.Sort
import Mathlib.Tactic.Common

/-!
# Queries with positional parameters

The part of SQL that a paged query rests on. A condition reads the values bound to its own question
marks, and a query binds its values to the question marks in the order of the text. The second half
is about reading a list in descending order of a key page by page, where a page begins below the key
of the last row read.
-/

namespace Sql

universe u v w

/-- The values of columns and parameters. -/
inductive Value where
  /-- `NULL`. -/
  | null
  /-- An `INTEGER`. -/
  | integer (n : Int)
  /-- A `TEXT`. -/
  | text (s : List Char)
  deriving DecidableEq

/-- `left < right`: true only if neither side is null, and an integer comes before every text. -/
def Value.lt : Value → Value → Bool
  | .integer m, .integer n => m < n
  | .integer _, .text _ => true
  | .text s, .text t => s < t
  | _, _ => false

/-- `left = right`: true only if neither side is null. -/
def Value.eq : Value → Value → Bool
  | .integer m, .integer n => m = n
  | .text s, .text t => s = t
  | _, _ => false

/-- `left >= right`. -/
def Value.ge (left right : Value) : Bool := right.lt left || left.eq right

/-- The value bound to a question mark; one that nothing is bound to is null. -/
def question (params : List Value) (i : Nat) : Value := params.getD i .null

/-- A condition of a `WHERE`: the number of its question marks, and whether it is true in a row of a
database under the values bound to them. -/
structure Clause (D : Type u) (ρ : Type v) where
  /-- The number of its parameters. -/
  arity : Nat
  /-- Whether it holds of a row, with these parameters. -/
  holds : D → List Value → ρ → Bool

section Conditions

variable {D : Type u} {ρ : Type v}

/-- The conditions joined by `AND`. -/
def conjunction : List (Clause D ρ) → Clause D ρ
  | [] => ⟨0, fun _ _ _ => true⟩
  | c :: cs =>
    { arity := c.arity + (conjunction cs).arity
      holds := fun db params row =>
        c.holds db (params.take c.arity) row &&
          (conjunction cs).holds db (params.drop c.arity) row }

/-- `SELECT … WHERE …`. -/
def select (conditions : List (Clause D ρ)) (db : D) (params : List Value) (rows : List ρ) :
    List ρ :=
  rows.filter ((conjunction conditions).holds db params)

/-- A condition with one value for each of its question marks. -/
structure Bound (D : Type u) (ρ : Type v) where
  /-- The clause. -/
  clause : Clause D ρ
  /-- Its parameters. -/
  params : List Value
  /-- There are as many parameters as the clause has. -/
  length_params : params.length = clause.arity

/-- A bound clause holds of a row. -/
def Bound.holds (b : Bound D ρ) (db : D) (row : ρ) : Bool := b.clause.holds db b.params row

/-- The clauses of a statement. -/
def clauses (bound : List (Bound D ρ)) : List (Clause D ρ) := bound.map (·.clause)

/-- All parameters of a statement, in the order of its clauses. -/
def values (bound : List (Bound D ρ)) : List Value := bound.flatMap (·.params)

@[simp]
theorem clauses_nil : clauses ([] : List (Bound D ρ)) = [] := rfl

@[simp]
theorem values_nil : values ([] : List (Bound D ρ)) = [] := rfl

@[simp]
theorem clauses_cons (b : Bound D ρ) (bs : List (Bound D ρ)) :
    clauses (b :: bs) = b.clause :: clauses bs := rfl

@[simp]
theorem values_cons (b : Bound D ρ) (bs : List (Bound D ρ)) :
    values (b :: bs) = b.params ++ values bs := rfl

theorem arity_conjunction (bound : List (Bound D ρ)) :
    (conjunction (clauses bound)).arity = (values bound).length := by
  induction bound with
  | nil => rfl
  | cons b bs ih =>
    show b.clause.arity + (conjunction (clauses bs)).arity = (b.params ++ values bs).length
    rw [ih, List.length_append, b.length_params]

/-- Every condition reads its own values, whatever is bound behind them. -/
theorem holds_conjunction (bound : List (Bound D ρ)) (rest : List Value) (db : D) (row : ρ) :
    (conjunction (clauses bound)).holds db (values bound ++ rest) row = bound.all fun b =>
      b.holds db row := by
  induction bound with
  | nil => rfl
  | cons b bs ih =>
    show (b.clause.holds db ((b.params ++ values bs ++ rest).take b.clause.arity) row &&
      (conjunction (clauses bs)).holds db
        ((b.params ++ values bs ++ rest).drop b.clause.arity) row) = _
    rw [List.append_assoc, ← b.length_params, List.take_left, List.drop_left, ih]
    rfl

theorem select_bound (bound : List (Bound D ρ)) (rest : List Value) (db : D) (rows : List ρ) :
    select (clauses bound) db (values bound ++ rest) rows = rows.filter fun row =>
      bound.all fun b => b.holds db row := by
  unfold select
  congr 1
  funext row
  exact holds_conjunction bound rest db row

end Conditions

section Order

variable {ρ : Type v} {κ : Type w} [LinearOrder κ] (key : ρ → κ)

/-- `ORDER BY … DESC`. -/
def orderByDesc (rows : List ρ) : List ρ := rows.insertionSort fun a b => key b ≤ key a

/-- `ORDER BY … ASC`. -/
def orderByAsc (rows : List ρ) : List ρ := rows.insertionSort fun a b => key a ≤ key b

/-- `LIMIT …`. -/
def limitTo (limit : Option Nat) (rows : List ρ) : List ρ := limit.elim rows rows.take

/-- The rows come in strictly descending order of the key. -/
def Descending (rows : List ρ) : Prop := rows.Pairwise fun a b => key b < key a

variable {key}

theorem perm_orderByDesc (rows : List ρ) : (orderByDesc key rows).Perm rows :=
  List.perm_insertionSort _ rows

theorem descending_orderByDesc {rows : List ρ} (h : (rows.map key).Nodup) :
    Descending key (orderByDesc key rows) := by
  have hsorted : (orderByDesc key rows).Pairwise fun a b => key b ≤ key a := by
    have : Std.Total fun a b => key b ≤ key a := ⟨fun a b => le_total (key b) (key a)⟩
    have : IsTrans ρ fun a b => key b ≤ key a := ⟨fun a b c hab hbc => hbc.trans hab⟩
    exact List.pairwise_insertionSort _ rows
  have hnodup : ((orderByDesc key rows).map key).Nodup :=
    ((perm_orderByDesc rows).map key).nodup_iff.mpr h
  have hne : (orderByDesc key rows).Pairwise fun a b => key a ≠ key b := List.pairwise_map.mp hnodup
  exact (hsorted.and hne).imp fun h => lt_of_le_of_ne h.1 (Ne.symm h.2)

theorem orderByDesc_of_descending {rows : List ρ} (h : Descending key rows) :
    orderByDesc key rows = rows :=
  List.Pairwise.insertionSort_eq (h.imp fun h => h.le)

/-- The ascending order of descending rows is the reverse one. -/
theorem orderByAsc_of_descending {rows : List ρ} (h : Descending key rows) :
    orderByAsc key rows = rows.reverse := by
  have hreverse : rows.reverse.Pairwise fun a b => key a < key b := List.pairwise_reverse.mpr h
  have hsorted : (orderByAsc key rows).Pairwise fun a b => key a ≤ key b := by
    have : Std.Total fun a b => key a ≤ key b := ⟨fun a b => le_total (key a) (key b)⟩
    have : IsTrans ρ fun a b => key a ≤ key b := ⟨fun a b c hab hbc => hab.trans hbc⟩
    exact List.pairwise_insertionSort _ rows
  have hperm : (orderByAsc key rows).Perm rows.reverse :=
    (List.perm_insertionSort _ rows).trans (List.reverse_perm rows).symm
  refine hperm.eq_of_pairwise ?_ hsorted (hreverse.imp fun h => h.le)
  intro a b ha hb hab hba
  have heq : key a = key b := le_antisymm hab hba
  have hmem : a ∈ rows.reverse := hperm.mem_iff.mp ha
  have hinj : ∀ x ∈ rows.reverse, ∀ y ∈ rows.reverse, key x = key y → x = y := by
    intro x hx y hy hxy
    by_contra hne
    have hlt := List.Pairwise.forall_of_forall_of_flip (l := rows.reverse)
      (R := fun x y => x ≠ y → key x ≠ key y) (fun x _ hne => absurd rfl hne)
      (hreverse.imp fun h _ => h.ne) (hreverse.imp fun h _ => h.ne')
    exact hlt hx hy hne hxy
  exact hinj a hmem b hb heq

theorem Descending.filter {rows : List ρ} (h : Descending key rows) (p : ρ → Bool) :
    Descending key (rows.filter p) := List.Pairwise.filter p h

theorem Descending.limitTo {rows : List ρ} (h : Descending key rows) (limit : Option Nat) :
    Descending key (limitTo limit rows) := by
  cases limit with
  | none => exact h
  | some n => exact h.sublist (List.take_sublist n rows)

/-- The first `n` rows are those with fewer than `n` rows above them. -/
theorem mem_take_iff {rows : List ρ} (h : Descending key rows) {n : Nat} {row : ρ} :
    row ∈ rows.take n ↔ row ∈ rows ∧ (rows.filter fun other => key row < key other).length < n := by
  induction rows generalizing n with
  | nil => simp
  | cons first rest ih =>
    obtain ⟨hfirst, hrest⟩ := List.pairwise_cons.mp h
    cases n with
    | zero => simp
    | succ n =>
      rw [List.take_succ_cons, List.mem_cons, List.mem_cons, ih hrest]
      constructor
      · rintro (rfl | ⟨hmem, hlt⟩)
        · have hnone : ∀ other ∈ row :: rest, ¬ key row < key other := by
            intro other hother
            obtain rfl | hother := List.mem_cons.mp hother
            · exact lt_irrefl _
            · exact (hfirst other hother).not_gt
          refine ⟨Or.inl rfl, ?_⟩
          rw [List.filter_eq_nil_iff.mpr (by simpa using hnone)]
          exact Nat.succ_pos n
        · refine ⟨Or.inr hmem, ?_⟩
          rw [List.filter_cons_of_pos (by simpa using hfirst row hmem)]
          exact Nat.succ_lt_succ hlt
      · rintro ⟨rfl | hmem, hlt⟩
        · exact Or.inl rfl
        · rw [List.filter_cons_of_pos (by simpa using hfirst row hmem)] at hlt
          exact Or.inr ⟨hmem, Nat.lt_of_succ_lt_succ hlt⟩

/-- The rows below the last of those already read are the ones still to be read. -/
theorem filter_below {seen rest : List ρ} {last : ρ} (h : Descending key (seen ++ last :: rest)) :
    (seen ++ last :: rest).filter (fun row => key row < key last) = rest := by
  obtain ⟨-, hrest, hcross⟩ := List.pairwise_append.mp h
  obtain ⟨hlast, -⟩ := List.pairwise_cons.mp hrest
  have hseen : ∀ row ∈ seen, ¬ key row < key last :=
    fun row hrow => (hcross row hrow last List.mem_cons_self).not_gt
  rw [List.filter_append, List.filter_eq_nil_iff.mpr (by simpa using hseen), List.nil_append,
    List.filter_cons_of_neg (by simp), List.filter_eq_self.mpr (by simpa using hlast)]

end Order

end Sql
