import SketchRepair.Proofs.Script.Detection
import SketchRepair.Proofs.Script.Distance

/-!
# SketchRepair — a closing parenthesis more, or one less

A `)` that is put into a script, or taken out of it, changes the number of parentheses
without a partner by one. Which way depends on where it is done. One more `)` helps if a
`(` in front of it has no partner: that one, or one further in front, gets a partner, and
else the new `)` has none. One `)` less helps if it has no partner, or one behind it has
none, which then takes its place.

* `exists_scanned` — the scan when it comes to a place of a text;
* `exists_open_iff`, `exists_stray_iff` — what the rest of the scan reports, by counting;
* `insert_close_lt_iff`, `delete_close_lt_iff` — **when a closing parenthesis helps**.
-/

namespace SketchRepair

namespace Script

variable {i m : Nat} {opened : List Nat} {x : ParenIssue} {t : Text}

-- ---------------------------------------------------------------------------
-- The scan
-- ---------------------------------------------------------------------------

/-- What is reported is found from here on, or was open before. -/
theorem mem_unmatchedFrom (h : x ∈ unmatchedFrom i opened t) :
    (i : Int) ≤ x.index ∨ x.fault = .missingClose ∧ ∃ j ∈ opened, x.index = (j : Int) := by
  induction t generalizing i opened with
  | nil =>
    obtain ⟨j, hj, rfl⟩ := List.mem_map.mp h
    exact .inr ⟨rfl, j, List.mem_reverse.mp hj, rfl⟩
  | cons c t ih =>
    rcases paren_cases c with rfl | rfl | ⟨hOpen, hClose⟩
    · rw [unmatchedFrom_open] at h
      rcases ih h with hLater | ⟨hFault, j, hj, hIndex⟩
      · exact .inl (by omega)
      rcases List.mem_cons.mp hj with rfl | hj
      · exact .inl hIndex.ge
      · exact .inr ⟨hFault, j, hj, hIndex⟩
    · cases opened with
      | nil =>
        rw [unmatchedFrom_stray] at h
        rcases List.mem_cons.mp h with rfl | h
        · exact .inl le_rfl
        · rcases ih h with hLater | ⟨-, j, hj, -⟩
          · exact .inl (by omega)
          · simp at hj
      | cons k opened =>
        rw [unmatchedFrom_close] at h
        rcases ih h with hLater | ⟨hFault, j, hj, hIndex⟩
        · exact .inl (by omega)
        · exact .inr ⟨hFault, j, List.mem_cons_of_mem _ hj, hIndex⟩
    · rw [unmatchedFrom_other hOpen hClose] at h
      rcases ih h with hLater | hBefore
      · exact .inl (by omega)
      · exact .inr hBefore

/-- Behind a text the scan has reported what is stray in it, and goes on with what is open. -/
theorem exists_scanned (a : Text) : ∃ strays opened,
    (∀ x ∈ strays, x.fault = .extraClose ∧ x.index < (a.length : Int)) ∧
      (∀ j ∈ opened, j < a.length) ∧
      ∀ t, unmatchedFrom 0 [] (a ++ t) = strays ++ unmatchedFrom a.length opened t := by
  induction a using List.reverseRecOn with
  | nil => exact ⟨[], [], by simp, by simp, fun _ => rfl⟩
  | append_singleton a c ih =>
    obtain ⟨strays, opened, hStrays, hOpened, hScan⟩ := ih
    have hLonger : (a ++ [c]).length = a.length + 1 := List.length_append
    have hStrays' : ∀ x ∈ strays, x.fault = .extraClose ∧ x.index < ((a ++ [c]).length : Int) :=
      fun x hx => ⟨(hStrays x hx).1, by have := (hStrays x hx).2; omega⟩
    have hOpened' : ∀ j ∈ opened, j < (a ++ [c]).length := fun j hj => by
      have := hOpened j hj
      omega
    have hNext (t : Text) : unmatchedFrom 0 [] (a ++ [c] ++ t) =
        strays ++ unmatchedFrom a.length opened (c :: t) := by
      rw [List.append_assoc, hScan]
      rfl
    rcases paren_cases c with rfl | rfl | ⟨hOpen, hClose⟩
    · refine ⟨strays, a.length :: opened, hStrays',
        List.forall_mem_cons.mpr ⟨by omega, hOpened'⟩, fun t => ?_⟩
      rw [hNext, unmatchedFrom_open, hLonger]
    · cases opened with
      | nil =>
        refine ⟨strays ++ [⟨.extraClose, a.length⟩], [], ?_, by simp, fun t => ?_⟩
        · rw [List.forall_mem_append]
          exact ⟨hStrays', by simp only [List.forall_mem_singleton, true_and]; omega⟩
        · rw [hNext, unmatchedFrom_stray, hLonger, List.append_assoc, List.singleton_append]
      | cons j opened =>
        refine ⟨strays, opened, hStrays', (List.forall_mem_cons.mp hOpened').2, fun t => ?_⟩
        rw [hNext, unmatchedFrom_close, hLonger]
    · refine ⟨strays, opened, hStrays', hOpened', fun t => ?_⟩
      rw [hNext, unmatchedFrom_other hOpen hClose, hLonger]

theorem loneCount_of_scanned {a : Text} {strays : List ParenIssue}
    (hScan : ∀ t, unmatchedFrom 0 [] (a ++ t) = strays ++ unmatchedFrom a.length opened t)
    (t : Text) : loneCount 0 (a ++ t) = strays.length + loneCount opened.length t := by
  have hLength := length_unmatchedFrom (a ++ t) 0 []
  rw [hScan, List.length_append, length_unmatchedFrom] at hLength
  exact hLength.symm

-- ---------------------------------------------------------------------------
-- What is reported, by counting
-- ---------------------------------------------------------------------------

/-- Something that was open before `m` stays open if with one less of those that are open
there would be one less without a partner. -/
theorem exists_open_iff (t : Text) : ∀ {i j : Nat} {own outer : List Nat},
    (∀ k ∈ own, m ≤ k) → j < m → (∀ k ∈ outer, k < m) → m ≤ i →
      ((∃ x ∈ unmatchedFrom i (own ++ j :: outer) t, x.index < (m : Int)) ↔
        loneCount (own ++ j :: outer).length t = loneCount (own ++ outer).length t + 1) := by
  induction t with
  | nil =>
    intro i j own outer _ hj _ _
    refine iff_of_true ⟨⟨.missingClose, j⟩, ?_, Int.ofNat_lt.mpr hj⟩ ?_
    · exact List.mem_map.mpr ⟨j, by simp, rfl⟩
    · simp only [loneCount, List.length_append, List.length_cons]
      omega
  | cons c t ih =>
    intro i j own outer hOwn hj hOuter hi
    have hi' : m ≤ i + 1 := Nat.le_succ_of_le hi
    rcases paren_cases c with rfl | rfl | ⟨hOpen, hClose⟩
    · rw [unmatchedFrom_open, loneCount_open, loneCount_open]
      have hOwn' : ∀ k ∈ i :: own, m ≤ k := List.forall_mem_cons.mpr ⟨hi, hOwn⟩
      exact ih hOwn' hj hOuter hi'
    · cases own with
      | cons o own =>
        rw [List.cons_append, List.cons_append, unmatchedFrom_close, List.length_cons,
          List.length_cons, loneCount_close, loneCount_close]
        exact ih (List.forall_mem_cons.mp hOwn).2 hj hOuter hi'
      | nil =>
        rw [List.nil_append, List.nil_append, unmatchedFrom_close, List.length_cons,
          loneCount_close]
        cases outer with
        | cons k outer =>
          obtain ⟨hk, hOuter⟩ := List.forall_mem_cons.mp hOuter
          rw [List.length_cons, loneCount_close]
          have hNone : ∀ k ∈ ([] : List Nat), m ≤ k := by simp
          exact ih hNone hk hOuter hi'
        | nil =>
          -- nothing that was open before is left
          rw [List.length_nil, loneCount_stray]
          refine iff_of_false ?_ (by omega)
          rintro ⟨x, hx, hBefore⟩
          rcases mem_unmatchedFrom hx with hLater | ⟨-, k, hk, -⟩
          · omega
          · simp at hk
    · rw [unmatchedFrom_other hOpen hClose, loneCount_other hOpen hClose,
        loneCount_other hOpen hClose]
      exact ih hOwn hj hOuter hi'

/-- Something is stray if one more open parenthesis would be one less without a partner. -/
theorem exists_stray_iff (t : Text) : ∀ {i : Nat} {opened : List Nat},
    (∃ x ∈ unmatchedFrom i opened t, x.fault = .extraClose) ↔
      loneCount opened.length t = loneCount (opened.length + 1) t + 1 := by
  induction t with
  | nil =>
    intro i opened
    refine iff_of_false ?_ (by rw [loneCount, loneCount]; omega)
    rintro ⟨x, hx, hFault⟩
    obtain ⟨j, -, rfl⟩ := List.mem_map.mp hx
    simp at hFault
  | cons c t ih =>
    intro i opened
    rcases paren_cases c with rfl | rfl | ⟨hOpen, hClose⟩
    · rw [unmatchedFrom_open, loneCount_open, loneCount_open, ih, List.length_cons]
    · cases opened with
      | nil =>
        rw [unmatchedFrom_stray, List.length_nil, loneCount_stray, loneCount_close]
        exact iff_of_true ⟨_, List.mem_cons_self .., rfl⟩ rfl
      | cons j opened =>
        rw [unmatchedFrom_close, ih, List.length_cons, loneCount_close, loneCount_close]
    · rw [unmatchedFrom_other hOpen hClose, loneCount_other hOpen hClose,
        loneCount_other hOpen hClose, ih]

-- ---------------------------------------------------------------------------
-- When it helps
-- ---------------------------------------------------------------------------

/-- What is reported has no partner. -/
theorem mem_unmatchedFrom_iff_lone {f : ParenFault} {k : Nat} :
    (⟨f, (k : Int)⟩ : ParenIssue) ∈ unmatchedFrom 0 [] t ↔ Lone f.char t k := by
  have hMem := (unmatchedFrom_unmatched 0 t).mem_iff_lone (f := f) k
  rwa [Nat.zero_add] at hMem

theorem exists_lone_of_mem (h : x ∈ unmatchedFrom 0 [] t) :
    ∃ k : Nat, x.index = k ∧ Lone x.fault.char t k := by
  obtain ⟨f, index⟩ := x
  obtain ⟨k, rfl⟩ := Int.eq_ofNat_of_zero_le ((unmatchedFrom_unmatched 0 t).ascending.1 _ h)
  exact ⟨k, rfl, mem_unmatchedFrom_iff_lone.mp h⟩

/-- **One more** closing parenthesis helps if an opening one in front of it has no partner. -/
theorem insert_close_lt_iff (a b : Text) :
    loneCount 0 (a ++ ')' :: b) < loneCount 0 (a ++ b) ↔
      ∃ k < a.length, Lone '(' (a ++ b) k := by
  obtain ⟨strays, opened, hStrays, hOpened, hScan⟩ := exists_scanned a
  have hCount := loneCount_of_scanned hScan
  have hOpen : (∃ k < a.length, Lone '(' (a ++ b) k) ↔
      ∃ x ∈ unmatchedFrom a.length opened b, x.index < (a.length : Int) := by
    constructor
    · rintro ⟨k, hk, hLone⟩
      have hMem := mem_unmatchedFrom_iff_lone (f := .missingClose) |>.mpr hLone
      rw [hScan] at hMem
      rcases List.mem_append.mp hMem with hStray | hLater
      · exact absurd (hStrays _ hStray).1 (by simp)
      · exact ⟨_, hLater, Int.ofNat_lt.mpr hk⟩
    · rintro ⟨x, hx, hBefore⟩
      obtain ⟨k, hIndex, hLone⟩ := exists_lone_of_mem (hScan b ▸ List.mem_append_right strays hx)
      rcases mem_unmatchedFrom hx with hLater | ⟨hFault, -⟩
      · omega
      · rw [hFault] at hLone
        exact ⟨k, by omega, hLone⟩
  rw [hOpen, hCount, hCount]
  cases opened with
  | nil =>
    rw [List.length_nil, loneCount_stray]
    refine iff_of_false (by omega) ?_
    rintro ⟨x, hx, hBefore⟩
    rcases mem_unmatchedFrom hx with hLater | ⟨-, k, hk, -⟩
    · omega
    · simp at hk
  | cons j outer =>
    obtain ⟨hj, hOuter⟩ := List.forall_mem_cons.mp hOpened
    rw [← List.nil_append (j :: outer), exists_open_iff b (by simp) hj hOuter le_rfl,
      List.nil_append, List.nil_append, List.length_cons, loneCount_close]
    have := loneCount_succ b outer.length
    omega

/-- **One less** helps if it has no partner, or one behind it has none. -/
theorem delete_close_lt_iff (a b : Text) :
    loneCount 0 (a ++ b) < loneCount 0 (a ++ ')' :: b) ↔
      ∃ k, a.length ≤ k ∧ Lone ')' (a ++ ')' :: b) k := by
  obtain ⟨strays, opened, hStrays, hOpened, hScan⟩ := exists_scanned a
  have hCount := loneCount_of_scanned hScan
  have hStray : (∃ k, a.length ≤ k ∧ Lone ')' (a ++ ')' :: b) k) ↔
      ∃ x ∈ unmatchedFrom a.length opened (')' :: b), x.fault = .extraClose := by
    constructor
    · rintro ⟨k, hk, hLone⟩
      have hMem := mem_unmatchedFrom_iff_lone (f := .extraClose) |>.mpr hLone
      rw [hScan] at hMem
      rcases List.mem_append.mp hMem with hBefore | hLater
      · have := (hStrays _ hBefore).2
        dsimp only at this
        omega
      · exact ⟨_, hLater, rfl⟩
    · rintro ⟨x, hx, hFault⟩
      obtain ⟨k, hIndex, hLone⟩ :=
        exists_lone_of_mem (hScan (')' :: b) ▸ List.mem_append_right strays hx)
      rcases mem_unmatchedFrom hx with hLater | ⟨hOther, -⟩
      · rw [hFault] at hLone
        exact ⟨k, by omega, hLone⟩
      · rw [hFault] at hOther
        exact absurd hOther (by simp)
  rw [hStray, hCount, hCount, exists_stray_iff]
  cases opened with
  | nil =>
    rw [List.length_nil, loneCount_stray, loneCount_close]
    exact iff_of_true (by omega) rfl
  | cons j outer =>
    rw [List.length_cons, loneCount_close, loneCount_close]
    have := loneCount_succ b outer.length
    omega

end Script

end SketchRepair
