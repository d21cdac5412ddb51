import ErdDeploy.Source.Line

/-!
Braces over several lines.

Read character by character, every closing brace closes the innermost brace that is open, and
the one that closes the outermost stands somewhere on the lines (`matching?`). Read line by
line, braces are only counted: at the end of some line at least as many have closed as
have opened (`Evened`).

The count cannot be even before the matching brace was read. On the line of the matching brace
it is even exactly if no more braces open than close behind that brace
(`firstEven_of_matched`), so the two readings part where a line closes the outermost brace
and opens another one.
-/

namespace ErdDeploy.Braces

/-! ## Character by character -/

/-- Read some text where some braces are open. Either so many are open behind it, or the outermost
is closed in it, and some text is left. -/
def scan : Nat → List Char → Nat ⊕ List Char
  | depth, [] => .inl depth
  | depth, c :: cs =>
    if c = '\x7b' then scan (depth + 1) cs
    else if c = '\x7d' then
      if depth = 1 then .inr cs else scan (depth - 1) cs
    else scan depth cs

/-- The line that holds the brace that closes the outermost of some open braces, by the number of
lines before it, and what follows the brace on it. -/
def matching? : Nat → List SourceLine → Option (Nat × List Char)
  | _, [] => none
  | depth, line :: lines =>
    match scan depth line.text with
    | .inr behind => some (0, behind)
    | .inl deeper => (matching? deeper lines).map fun found => (found.1 + 1, found.2)

/-- Text that leaves braces open changes their number by those that it holds. -/
theorem scan_inl {depth deeper : Nat} {cs : List Char} (positive : 0 < depth)
    (left : scan depth cs = .inl deeper) :
    0 < deeper ∧ deeper + cs.count '\x7d' = depth + cs.count '\x7b' := by
  induction cs generalizing depth with
  | nil =>
      cases left
      exact ⟨positive, rfl⟩
  | cons c cs ih =>
      rw [scan] at left
      split at left
      · next opens =>
        subst opens
        have rest := ih (Nat.succ_pos depth) left
        rw [List.count_cons_self, List.count_cons_of_ne (by decide)]
        omega
      · next other =>
        rw [List.count_cons_of_ne other]
        split at left
        · next closes =>
          subst closes
          split at left
          · cases left
          · have rest := ih (by omega) left
            rw [List.count_cons_self]
            omega
        · next plain =>
          rw [List.count_cons_of_ne plain]
          exact ih positive left

/-- Up to the matching brace as many braces close as are open and open. -/
theorem scan_inr {depth : Nat} {cs behind : List Char} (positive : 0 < depth)
    (closed : scan depth cs = .inr behind) :
    depth + cs.count '\x7b' + behind.count '\x7d' = cs.count '\x7d' + behind.count '\x7b' := by
  induction cs generalizing depth with
  | nil => cases closed
  | cons c cs ih =>
      rw [scan] at closed
      split at closed
      · next opens =>
        subst opens
        have rest := ih (Nat.succ_pos depth) closed
        rw [List.count_cons_self, List.count_cons_of_ne (by decide)]
        omega
      · next other =>
        rw [List.count_cons_of_ne other]
        split at closed
        · next closes =>
          subst closes
          rw [List.count_cons_self]
          split at closed
          · cases closed
            omega
          · have rest := ih (by omega) closed
            omega
        · next plain =>
          rw [List.count_cons_of_ne plain]
          exact ih positive closed

/-! ## Line by line -/

/-- How many braces open on some lines. -/
def opensOn (lines : List SourceLine) : Nat :=
  (lines.flatMap SourceLine.text).count '\x7b'

/-- How many braces close on some lines. -/
def closesOn (lines : List SourceLine) : Nat :=
  (lines.flatMap SourceLine.text).count '\x7d'

/-- At the end of some lines at least as many braces have closed as were open and have opened. -/
def Evened (depth : Nat) (lines : List SourceLine) : Prop :=
  depth + opensOn lines ≤ closesOn lines

instance (depth : Nat) (lines : List SourceLine) : Decidable (Evened depth lines) :=
  inferInstanceAs (Decidable (_ ≤ _))

/-- The count is even at the end of so many lines, and not sooner. -/
structure FirstEven (depth : Nat) (lines : List SourceLine) (n : Nat) : Prop where
  evened : Evened depth (lines.take n)
  least : ∀ m < n, ¬ Evened depth (lines.take m)

section

variable {depth n : Nat} {line : SourceLine} {lines : List SourceLine}

theorem opensOn_cons : opensOn (line :: lines) = line.opens + opensOn lines := by
  rw [opensOn, List.flatMap_cons, List.count_append, opensOn, SourceLine.opens]

theorem closesOn_cons : closesOn (line :: lines) = line.closes + closesOn lines := by
  rw [closesOn, List.flatMap_cons, List.count_append, closesOn, SourceLine.closes]

theorem not_evened_nil (positive : 0 < depth) : ¬ Evened depth [] := by
  intro evened
  have counted : depth + 0 ≤ 0 := evened
  omega

/-- A line that leaves braces open leaves the others to the lines behind it. -/
theorem evened_cons_iff (stays : line.closes < depth + line.opens) :
    Evened depth (line :: lines) ↔ Evened (depth + line.opens - line.closes) lines := by
  rw [Evened, Evened, opensOn_cons, closesOn_cons]
  omega

theorem evened_singleton_iff : Evened depth [line] ↔ depth + line.opens ≤ line.closes := by
  rw [Evened, opensOn_cons, closesOn_cons]
  rfl

theorem not_firstEven_nil (positive : 0 < depth) : ¬ FirstEven depth [] n := by
  intro first
  have evened := first.evened
  rw [List.take_nil] at evened
  exact not_evened_nil positive evened

theorem not_firstEven_zero (positive : 0 < depth) : ¬ FirstEven depth lines 0 :=
  fun first => not_evened_nil positive first.evened

theorem firstEven_cons_of_closes (positive : 0 < depth)
    (closes : depth + line.opens ≤ line.closes) :
    FirstEven depth (line :: lines) n ↔ n = 1 := by
  have here : Evened depth ((line :: lines).take 1) := evened_singleton_iff.mpr closes
  constructor
  · intro first
    have notLater : ¬ 1 < n := fun later => first.least 1 later here
    have notSooner : n ≠ 0 := by
      rintro rfl
      exact not_firstEven_zero positive first
    omega
  · rintro rfl
    refine ⟨here, fun m before => ?_⟩
    obtain rfl : m = 0 := by omega
    exact not_evened_nil positive

theorem firstEven_cons_of_stays (positive : 0 < depth)
    (stays : line.closes < depth + line.opens) :
    FirstEven depth (line :: lines) (n + 1) ↔
      FirstEven (depth + line.opens - line.closes) lines n := by
  constructor
  · rintro ⟨evened, least⟩
    rw [List.take_succ_cons, evened_cons_iff stays] at evened
    refine ⟨evened, fun m before => ?_⟩
    have later := least (m + 1) (by omega)
    rwa [List.take_succ_cons, evened_cons_iff stays] at later
  · rintro ⟨evened, least⟩
    rw [← evened_cons_iff stays] at evened
    refine ⟨evened, fun m before => ?_⟩
    cases m with
    | zero => exact not_evened_nil positive
    | succ m =>
        rw [List.take_succ_cons, evened_cons_iff stays]
        exact least m (by omega)

end

/-! ## Both readings -/

section

variable {depth : Nat} {lines : List SourceLine}

/-- A line without the matching brace leaves as many braces open as are counted. -/
theorem scan_line {deeper : Nat} {line : SourceLine} (positive : 0 < depth)
    (left : scan depth line.text = .inl deeper) :
    line.closes < depth + line.opens ∧ deeper = depth + line.opens - line.closes := by
  have counted := scan_inl positive left
  rw [SourceLine.opens, SourceLine.closes]
  omega

/-- Without a matching brace the count is never even. -/
theorem not_firstEven_of_unmatched (positive : 0 < depth)
    (unmatched : matching? depth lines = none) (n : Nat) : ¬ FirstEven depth lines n := by
  induction lines generalizing depth n with
  | nil => exact not_firstEven_nil positive
  | cons line lines ih =>
      cases n with
      | zero => exact not_firstEven_zero positive
      | succ n =>
          rw [matching?] at unmatched
          cases scanned : scan depth line.text with
          | inr behind =>
              rw [scanned] at unmatched
              cases unmatched
          | inl deeper =>
              rw [scanned] at unmatched
              rcases scan_line positive scanned with ⟨stays, rfl⟩
              rw [firstEven_cons_of_stays positive stays]
              exact ih (by omega) (Option.map_eq_none_iff.mp unmatched) n

/-- The count is not even before the line of the matching brace, and at its end exactly if no more
braces open than close behind that brace. -/
theorem firstEven_of_matched {k : Nat} {behind : List Char} (positive : 0 < depth)
    (matched : matching? depth lines = some (k, behind)) :
    (∀ n, FirstEven depth lines n → k < n) ∧
      (FirstEven depth lines (k + 1) ↔ behind.count '\x7b' ≤ behind.count '\x7d') := by
  induction lines generalizing depth k with
  | nil => cases matched
  | cons line lines ih =>
      rw [matching?] at matched
      cases scanned : scan depth line.text with
      | inr behind =>
          rw [scanned] at matched
          cases matched
          constructor
          · intro n first
            rw [Nat.pos_iff_ne_zero]
            rintro rfl
            exact not_firstEven_zero positive first
          · have counted := scan_inr positive scanned
            rw [← SourceLine.opens, ← SourceLine.closes] at counted
            by_cases closes : depth + line.opens ≤ line.closes
            · rw [firstEven_cons_of_closes positive closes]
              omega
            · rw [firstEven_cons_of_stays positive (by omega)]
              have never : ¬ FirstEven (depth + line.opens - line.closes) lines 0 :=
                not_firstEven_zero (by omega)
              exact ⟨fun first => absurd first never, fun more => by omega⟩
      | inl deeper =>
          rw [scanned] at matched
          rcases Option.map_eq_some_iff.mp matched with ⟨⟨k, behind⟩, later, same⟩
          cases same
          rcases scan_line positive scanned with ⟨stays, rfl⟩
          rcases ih (by omega) later with ⟨notSooner, onLine⟩
          constructor
          · intro n first
            cases n with
            | zero => exact absurd first (not_firstEven_zero positive)
            | succ n =>
                rw [firstEven_cons_of_stays positive stays] at first
                have bound := notSooner n first
                omega
          · rw [firstEven_cons_of_stays positive stays]
            exact onLine

end

end ErdDeploy.Braces
