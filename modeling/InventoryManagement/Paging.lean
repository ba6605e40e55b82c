import Mathlib.Data.List.Nodup
import Mathlib.Data.List.Perm.Subperm

/-! Offset paging: a loop asks for one page after the other until a page is empty,
and every query may see the rows in an order of its own. -/

set_option autoImplicit false

namespace InventoryManagement.Paging

variable {Row : Type} {size fuel skip : Nat} {listing : Nat → List Row} {rows : List Row}

/-- The page at an offset; `listing skip` is the order that query sees. -/
def page (size : Nat) (listing : Nat → List Row) (skip : Nat) : List Row :=
  ((listing skip).drop skip).take size

/-- The rows of `fuel` consecutive pages. -/
def pages (size : Nat) (listing : Nat → List Row) : Nat → Nat → List Row
  | 0, _ => []
  | fuel + 1, skip => page size listing skip ++ pages size listing fuel (skip + size)

theorem mem_page {row : Row} (member : row ∈ page size listing skip) : row ∈ listing skip :=
  List.mem_of_mem_drop (List.mem_of_mem_take member)

theorem page_nodup (unique : (listing skip).Nodup) : (page size listing skip).Nodup :=
  unique.sublist ((List.take_sublist _ _).trans (List.drop_sublist _ _))

theorem page_length : (page size listing skip).length = min size ((listing skip).length - skip) := by
  rw [page, List.length_take, List.length_drop]

theorem page_eq_nil (positive : 0 < size) :
    page size listing skip = [] ↔ (listing skip).length ≤ skip := by
  rw [← List.length_eq_zero_iff, page_length]
  omega

theorem mem_pages {row : Row} : row ∈ pages size listing fuel skip ↔
    ∃ number < fuel, row ∈ page size listing (skip + number * size) := by
  induction fuel generalizing skip with
  | zero => simp [pages]
  | succ fuel ih =>
      rw [pages, List.mem_append, ih]
      constructor
      · intro given
        rcases given with first | ⟨number, bound, later⟩
        · exact ⟨0, Nat.succ_pos _, by simpa using first⟩
        · refine ⟨number + 1, Nat.succ_lt_succ bound, ?_⟩
          rwa [Nat.succ_mul, Nat.add_comm (number * size), ← Nat.add_assoc]
      · intro given
        obtain ⟨_ | number, bound, member⟩ := given
        · exact .inl (by simpa using member)
        · refine .inr ⟨number, Nat.lt_of_succ_lt_succ bound, ?_⟩
          rwa [Nat.succ_mul, Nat.add_comm (number * size), ← Nat.add_assoc] at member

/-- Every query sees all rows, so the number of rows returned does not depend on
the orders. -/
theorem pages_length (perm : ∀ skip, (listing skip).Perm rows) :
    (pages size listing fuel skip).length = min (fuel * size) (rows.length - skip) := by
  induction fuel generalizing skip with
  | zero => simp [pages]
  | succ fuel ih =>
      rw [pages, List.length_append, page_length, ih, (perm skip).length_eq, Nat.succ_mul]
      omega

theorem pages_fixed : pages size (fun _ => rows) fuel skip = (rows.drop skip).take (fuel * size) := by
  induction fuel generalizing skip with
  | zero => simp [pages]
  | succ fuel ih =>
      rw [pages, ih, page, Nat.succ_mul, Nat.add_comm (fuel * size), List.take_add, List.drop_drop]

theorem pages_nodup (unique : ∀ skip, (listing skip).Nodup) :
    (pages size listing fuel skip).Nodup ↔ ∀ first second, first < second → second < fuel →
      List.Disjoint (page size listing (skip + first * size))
        (page size listing (skip + second * size)) := by
  induction fuel generalizing skip with
  | zero => simp [pages]
  | succ fuel ih =>
      rw [pages, List.nodup_append', ih]
      constructor
      · rintro ⟨_, rest, apart⟩ first second ordered bound
        obtain ⟨later, rfl⟩ : ∃ later, second = later + 1 := ⟨second - 1, by omega⟩
        have shifted : ∀ number, skip + (number + 1) * size = skip + size + number * size := by
          intro number
          rw [Nat.succ_mul]
          omega
        rw [shifted later]
        cases first with
        | zero =>
            intro row here there
            rw [Nat.zero_mul, Nat.add_zero] at here
            exact apart here (mem_pages.mpr ⟨later, by omega, there⟩)
        | succ first =>
            rw [shifted first]
            exact rest first later (by omega) (by omega)
      · intro apart
        refine ⟨page_nodup (unique skip), ?_, ?_⟩
        · intro first second ordered bound
          have shifted := apart (first + 1) (second + 1) (by omega) (by omega)
          simpa only [Nat.succ_mul, Nat.add_comm (_ * size) size, ← Nat.add_assoc] using shifted
        · intro row here there
          obtain ⟨number, bound, member⟩ := mem_pages.mp there
          have first := apart 0 (number + 1) (Nat.succ_pos _) (by omega)
          rw [Nat.zero_mul, Nat.add_zero, Nat.succ_mul, Nat.add_comm (number * size),
            ← Nat.add_assoc] at first
          exact first here member

/-- With enough pages, all rows are returned as soon as none is returned twice. -/
theorem pages_perm_iff_nodup (perm : ∀ skip, (listing skip).Perm rows) (unique : rows.Nodup)
    (enough : rows.length ≤ fuel * size) :
    (pages size listing fuel 0).Perm rows ↔ (pages size listing fuel 0).Nodup := by
  refine ⟨fun same => same.nodup_iff.mpr unique, fun once => ?_⟩
  have included : pages size listing fuel 0 ⊆ rows := by
    intro row member
    obtain ⟨number, _, here⟩ := mem_pages.mp member
    exact (perm _).mem_iff.mp (mem_page here)
  refine (List.subperm_of_subset once included).perm_of_length_le ?_
  rw [pages_length perm]
  omega

theorem pages_nodup_of_covered (perm : ∀ skip, (listing skip).Perm rows) (unique : rows.Nodup)
    (covered : rows ⊆ pages size listing fuel 0) : (pages size listing fuel 0).Nodup := by
  have smaller : (pages size listing fuel 0).length ≤ rows.length := by
    rw [pages_length perm]
    omega
  exact ((List.subperm_of_subset unique covered).perm_of_length_le smaller).nodup_iff.mp unique

theorem pages_nodup_iff_disjoint (perm : ∀ skip, (listing skip).Perm rows) (unique : rows.Nodup)
    (enough : rows.length ≤ fuel * size) :
    (pages size listing fuel 0).Nodup ↔ ∀ first second, first < second →
      List.Disjoint (page size listing (first * size)) (page size listing (second * size)) := by
  rw [pages_nodup (fun skip => (perm skip).nodup_iff.mpr unique)]
  simp only [Nat.zero_add]
  constructor
  · intro apart first second ordered row here there
    by_cases bound : second < fuel
    · exact apart first second ordered bound here there
    · -- beyond the last page there is nothing
      have beyond : (listing (second * size)).length ≤ second * size := by
        rw [(perm _).length_eq]
        exact Nat.le_trans enough (Nat.mul_le_mul_right size (by omega))
      rw [page, List.drop_eq_nil_of_le beyond] at there
      simp at there
  · intro apart first second ordered _
    exact apart first second ordered

theorem covered_iff_disjoint (perm : ∀ skip, (listing skip).Perm rows) (unique : rows.Nodup)
    (positive : 0 < size) :
    (∀ row ∈ rows, ∃ number, row ∈ page size listing (number * size)) ↔
      ∀ first second, first < second →
        List.Disjoint (page size listing (first * size)) (page size listing (second * size)) := by
  have enough : rows.length ≤ rows.length * size := Nat.le_mul_of_pos_right _ positive
  rw [← pages_nodup_iff_disjoint perm unique enough]
  constructor
  · intro covered
    apply pages_nodup_of_covered perm unique
    intro row member
    obtain ⟨number, shown⟩ := covered row member
    have here : number * size < rows.length := by
      by_contra past
      have empty : page size listing (number * size) = [] := by
        rw [page_eq_nil positive, (perm _).length_eq]
        omega
      rw [empty] at shown
      cases shown
    have bound : number < rows.length :=
      Nat.lt_of_le_of_lt (Nat.le_mul_of_pos_right _ positive) here
    exact mem_pages.mpr ⟨number, bound, by rwa [Nat.zero_add]⟩
  · intro once row member
    have all := (pages_perm_iff_nodup perm unique enough).mpr once
    obtain ⟨number, _, shown⟩ := mem_pages.mp (all.mem_iff.mpr member)
    exact ⟨number, by rwa [Nat.zero_add] at shown⟩

theorem disjoint_fixed (unique : rows.Nodup) (first second : Nat) (ordered : first < second) :
    List.Disjoint (page size (fun _ => rows) (first * size))
      (page size (fun _ => rows) (second * size)) := by
  have once : (pages size (fun _ => rows) (second + 1) 0).Nodup := by
    rw [pages_fixed]
    exact unique.sublist ((List.take_sublist _ _).trans (List.drop_sublist _ _))
  have apart := (pages_nodup (fun _ => unique)).mp once first second ordered (Nat.lt_succ_self _)
  rwa [Nat.zero_add, Nat.zero_add] at apart

end InventoryManagement.Paging
