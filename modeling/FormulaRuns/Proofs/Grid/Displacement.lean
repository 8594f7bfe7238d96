import FormulaRuns.Proofs.Grid.Shift

/-!
Distances act on the grid. A shift adds 64-bit words, and yet it gives the exact sums on the free
axes and is defined wherever these are on the grid (`shifted_eq_some_iff_displaced`). So a shift
that follows another one is the shift by both distances at once (`shifted_shifted`), a shift by no
distance changes nothing (`shifted_zero`), and the way back undoes the way there.
-/
namespace FormulaRuns

namespace Distance

/-- Distances are pairs of signed 64-bit words. -/
structure InWords (distance : Distance) : Prop where
  rows : -9223372036854775808 ≤ distance.rows ∧ distance.rows < 9223372036854775808
  cols : -9223372036854775808 ≤ distance.cols ∧ distance.cols < 9223372036854775808

def add (first second : Distance) : Distance :=
  ⟨first.rows + second.rows, first.cols + second.cols⟩

variable {origin candidate : Address}

theorem between_inWords (origin_words : origin.InWords) (candidate_words : candidate.InWords) :
    (between origin candidate).InWords := by
  have bounds := between_bounds origin_words candidate_words
  constructor <;> omega

theorem between_add_between (origin candidate : Address) :
    (between origin candidate).add (between candidate origin) = zero := by
  simp only [between, add, zero, mk.injEq]
  omega

end Distance

/-- The number of an axis after a move: a free one takes the exact sum, wherever that lies. -/
def axisSum (fixed : Bool) (value : Nat) (delta : Int) : Int :=
  if fixed then value else value + delta

/-- The move leaves the axis on the grid; a fixed axis is wherever it was. -/
def AxisReaches (fixed : Bool) (value : Nat) (delta : Int) (last : Nat) : Prop :=
  fixed = false → 1 ≤ value + delta ∧ value + delta ≤ last

section

variable {fixed : Bool} {value last moved : Nat} {delta delta' : Int}

@[simp] theorem axisSum_fixed : axisSum true value delta = value := rfl

@[simp] theorem axisSum_free : axisSum false value delta = value + delta := rfl

@[simp] theorem axisReaches_fixed : AxisReaches true value delta last := nofun

@[simp] theorem axisReaches_free :
    AxisReaches false value delta last ↔ 1 ≤ value + delta ∧ value + delta ≤ last := by
  simp [AxisReaches]

theorem axisAfter_eq_some_iff (value_word : value < 4294967296)
    (delta_word : -9223372036854775808 ≤ delta ∧ delta < 9223372036854775808)
    (small : last < 9223372036854775808) :
    Reference.axisAfter fixed value delta last = some moved ↔
      AxisReaches fixed value delta last ∧ (moved : Int) = axisSum fixed value delta := by
  cases fixed with
  | true => simp [Reference.axisAfter, eq_comm]
  | false =>
    have low : -9223372036854775808 ≤ (value : Int) + delta := by omega
    have high : (value : Int) + delta < 18446744073709551616 := by omega
    simp only [Reference.axisAfter, Bool.false_eq_true, if_false,
      shiftAxis_eq_some_iff low high small, axisReaches_free, axisSum_free]
    omega

theorem AxisReaches.exists_sum (reaches : AxisReaches fixed value delta last) :
    ∃ moved : Nat, (moved : Int) = axisSum fixed value delta := by
  cases fixed with
  | true => exact ⟨value, rfl⟩
  | false =>
    have positive := (axisReaches_free.1 reaches).1
    exact ⟨(value + delta).toNat, Int.toNat_of_nonneg (by omega)⟩

theorem AxisReaches.lt_word (reaches : AxisReaches fixed value delta last)
    (value_word : value < 4294967296) (last_word : last < 4294967296)
    (sum : (moved : Int) = axisSum fixed value delta) : moved < 4294967296 := by
  cases fixed with
  | true =>
    rw [axisSum_fixed] at sum
    omega
  | false =>
    rw [axisReaches_free] at reaches
    rw [axisSum_free] at sum
    omega

theorem axisSum_axisSum (sum : (moved : Int) = axisSum fixed value delta) :
    axisSum fixed moved delta' = axisSum fixed value (delta + delta') := by
  cases fixed with
  | true => simpa using sum
  | false =>
    rw [axisSum_free] at sum
    simp only [axisSum_free, sum, Int.add_assoc]

theorem axisReaches_after_iff (sum : (moved : Int) = axisSum fixed value delta) :
    AxisReaches fixed moved delta' last ↔ AxisReaches fixed value (delta + delta') last := by
  cases fixed with
  | true => simp
  | false =>
    rw [axisSum_free] at sum
    simp only [axisReaches_free, sum, Int.add_assoc]

theorem axisMoved_iff : axisMoved fixed value moved delta ↔
    (moved : Int) = axisSum fixed value delta := by
  cases fixed with
  | true =>
    simp only [axisMoved, if_true, beq_iff_eq, axisSum_fixed]
    omega
  | false =>
    simp only [axisMoved, Bool.false_eq_true, if_false, beq_iff_eq, axisSum_free]
    omega

end

namespace Reference

/-- The second reference is the first one moved: sheet and anchors are the same, fixed axes stay
where they are, and the distance is added to the free ones. -/
structure Displaced (distance : Distance) (before after : Reference) : Prop where
  sheet : after.sheet = before.sheet
  rowFixed : after.rowFixed = before.rowFixed
  colFixed : after.colFixed = before.colFixed
  row : (after.row : Int) = axisSum before.rowFixed before.row distance.rows
  col : (after.col : Int) = axisSum before.colFixed before.col distance.cols

structure Reaches (distance : Distance) (ref : Reference) : Prop where
  row : AxisReaches ref.rowFixed ref.row distance.rows lastRow
  col : AxisReaches ref.colFixed ref.col distance.cols lastColumn

variable {ref moved other : Reference} {distance further : Distance}

theorem movedBy_iff_displaced {before after : Reference} :
    before.movedBy distance after ↔ before.Displaced distance after := by
  simp only [movedBy, Bool.and_eq_true, beq_iff_eq, axisMoved_iff]
  constructor
  · rintro ⟨⟨⟨⟨sheet, colFixed⟩, rowFixed⟩, col⟩, row⟩
    exact ⟨sheet.symm, rowFixed.symm, colFixed.symm, row, col⟩
  · rintro ⟨sheet, rowFixed, colFixed, row, col⟩
    exact ⟨⟨⟨⟨sheet.symm, colFixed.symm⟩, rowFixed.symm⟩, col⟩, row⟩

theorem shifted_eq_some_iff_displaced (ref_words : ref.address.InWords)
    (words : distance.InWords) :
    ref.shifted distance = some moved ↔ ref.Reaches distance ∧ ref.Displaced distance moved := by
  obtain ⟨row_word, col_word⟩ : ref.row < 4294967296 ∧ ref.col < 4294967296 := ref_words
  rw [shifted_eq_some_iff, axisAfter_eq_some_iff col_word words.cols (by decide),
    axisAfter_eq_some_iff row_word words.rows (by decide)]
  constructor
  · rintro ⟨sheet, colFixed, rowFixed, ⟨col_reaches, col⟩, row_reaches, row⟩
    exact ⟨⟨row_reaches, col_reaches⟩, sheet.symm, rowFixed.symm, colFixed.symm, row, col⟩
  · rintro ⟨⟨row_reaches, col_reaches⟩, sheet, rowFixed, colFixed, row, col⟩
    exact ⟨sheet.symm, colFixed.symm, rowFixed.symm, ⟨col_reaches, col⟩, row_reaches, row⟩

theorem exists_shifted_iff (ref_words : ref.address.InWords) (words : distance.InWords) :
    (∃ moved, ref.shifted distance = some moved) ↔ ref.Reaches distance := by
  simp only [shifted_eq_some_iff_displaced ref_words words]
  constructor
  · rintro ⟨moved, reaches, -⟩
    exact reaches
  · intro reaches
    obtain ⟨row, row_sum⟩ := reaches.row.exists_sum
    obtain ⟨col, col_sum⟩ := reaches.col.exists_sum
    exact ⟨⟨ref.sheet, row, col, ref.rowFixed, ref.colFixed⟩, reaches, rfl, rfl, rfl, row_sum,
      col_sum⟩

theorem Displaced.inWords (displaced : ref.Displaced distance moved)
    (reaches : ref.Reaches distance) (ref_words : ref.address.InWords) :
    moved.address.InWords :=
  ⟨reaches.row.lt_word ref_words.1 (by decide) displaced.row,
    reaches.col.lt_word ref_words.2 (by decide) displaced.col⟩

theorem Displaced.reaches_iff (displaced : ref.Displaced distance moved) :
    moved.Reaches further ↔ ref.Reaches (distance.add further) := by
  have rows : AxisReaches ref.rowFixed moved.row further.rows lastRow ↔
      AxisReaches ref.rowFixed ref.row (distance.rows + further.rows) lastRow :=
    axisReaches_after_iff displaced.row
  have cols : AxisReaches ref.colFixed moved.col further.cols lastColumn ↔
      AxisReaches ref.colFixed ref.col (distance.cols + further.cols) lastColumn :=
    axisReaches_after_iff displaced.col
  constructor
  · rintro ⟨row, col⟩
    exact ⟨rows.1 (displaced.rowFixed ▸ row), cols.1 (displaced.colFixed ▸ col)⟩
  · rintro ⟨row, col⟩
    exact ⟨displaced.rowFixed ▸ rows.2 row, displaced.colFixed ▸ cols.2 col⟩

theorem Displaced.displaced_iff (displaced : ref.Displaced distance moved) :
    moved.Displaced further other ↔ ref.Displaced (distance.add further) other := by
  have row_sum : axisSum ref.rowFixed moved.row further.rows =
      axisSum ref.rowFixed ref.row (distance.rows + further.rows) := axisSum_axisSum displaced.row
  have col_sum : axisSum ref.colFixed moved.col further.cols =
      axisSum ref.colFixed ref.col (distance.cols + further.cols) := axisSum_axisSum displaced.col
  constructor
  · rintro ⟨sheet, rowFixed, colFixed, row, col⟩
    rw [displaced.rowFixed, row_sum] at row
    rw [displaced.colFixed, col_sum] at col
    exact ⟨sheet.trans displaced.sheet, rowFixed.trans displaced.rowFixed,
      colFixed.trans displaced.colFixed, row, col⟩
  · rintro ⟨sheet, rowFixed, colFixed, row, col⟩
    refine ⟨sheet.trans displaced.sheet.symm, rowFixed.trans displaced.rowFixed.symm,
      colFixed.trans displaced.colFixed.symm, ?_, ?_⟩
    · rw [displaced.rowFixed, row_sum]
      exact row
    · rw [displaced.colFixed, col_sum]
      exact col

theorem shifted_shifted (ref_words : ref.address.InWords) (words : distance.InWords)
    (shifted : ref.shifted distance = some moved) (further_words : further.InWords)
    (total_words : (distance.add further).InWords) :
    moved.shifted further = ref.shifted (distance.add further) := by
  obtain ⟨reaches, displaced⟩ := (shifted_eq_some_iff_displaced ref_words words).1 shifted
  have moved_words := displaced.inWords reaches ref_words
  apply Option.ext
  intro other
  rw [shifted_eq_some_iff_displaced moved_words further_words,
    shifted_eq_some_iff_displaced ref_words total_words, displaced.reaches_iff,
    displaced.displaced_iff]

theorem OnGrid.inWords (on_grid : ref.OnGrid) : ref.address.InWords := by
  obtain ⟨-, row_le, -, col_le⟩ := on_grid
  simp only [lastRow, lastColumn] at row_le col_le
  simp only [Address.InWords, address]
  omega

theorem shifted_zero (on_grid : ref.OnGrid) : ref.shifted .zero = some ref := by
  have words : Distance.zero.InWords := by constructor <;> decide
  rw [shifted_eq_some_iff_displaced on_grid.inWords words]
  obtain ⟨row_pos, row_le, col_pos, col_le⟩ := on_grid
  refine ⟨⟨fun _ => ?_, fun _ => ?_⟩, rfl, rfl, rfl, ?_, ?_⟩
  · simp only [Distance.zero]
    omega
  · simp only [Distance.zero]
    omega
  · simp [axisSum, Distance.zero]
  · simp [axisSum, Distance.zero]

end Reference

/-- Shifts are a partial action of distances on references. They are defined wherever the exact
sums are on the grid, although sums are 64-bit words; a shift after another one is the shift by the
sum of the distances; and on the grid the way from one cell to another is undone by the way back. -/
theorem shifts_act_on_grid {ref : Reference} (ref_words : ref.address.InWords) :
    (∀ distance : Distance, distance.InWords →
      ((∃ moved, ref.shifted distance = some moved) ↔ ref.Reaches distance) ∧
      ∀ moved, ref.shifted distance = some moved → ref.Displaced distance moved ∧
        ∀ further : Distance, further.InWords → (distance.add further).InWords →
          moved.shifted further = ref.shifted (distance.add further)) ∧
    ∀ cell cell' : Address, cell.InWords → cell'.InWords → ref.OnGrid → ∀ moved,
      ref.shifted (.between cell cell') = some moved →
        moved.shifted (.between cell' cell) = some ref := by
  constructor
  · intro distance words
    refine ⟨Reference.exists_shifted_iff ref_words words, fun moved shifted => ⟨?_, ?_⟩⟩
    · exact ((Reference.shifted_eq_some_iff_displaced ref_words words).1 shifted).2
    · intro further further_words total_words
      exact Reference.shifted_shifted ref_words words shifted further_words total_words
  · intro cell cell' words words' on_grid moved shifted
    have there := Distance.between_inWords words words'
    have back := Distance.between_inWords words' words
    have nowhere := Distance.between_add_between cell cell'
    have total : ((Distance.between cell cell').add (.between cell' cell)).InWords := by
      rw [nowhere]
      constructor <;> decide
    rw [Reference.shifted_shifted ref_words there shifted back total, nowhere]
    exact Reference.shifted_zero on_grid

theorem shifts_act_on_grid_from_last_row :
    let ref : Reference := ⟨"S", 1048576, 7, false, true⟩
    let moved : Reference := ⟨"S", 1, 7, false, true⟩
    let distance : Distance := ⟨-1048575, 9223372036854775807⟩
    let further : Distance := ⟨1048575, -9223372036854775808⟩
    ref.address.InWords ∧ distance.InWords ∧ further.InWords ∧ (distance.add further).InWords ∧
      ref.Reaches distance ∧ ref.shifted distance = some moved ∧ ref.Displaced distance moved ∧
      moved.shifted further = ref.shifted ⟨0, -1⟩ ∧
      ref.OnGrid ∧ ref.shifted (.between ⟨"S", 1048576, 1⟩ ⟨"S", 1, 9⟩) = some moved ∧
      moved.shifted (.between ⟨"S", 1, 9⟩ ⟨"S", 1048576, 1⟩) = some ref := by
  intro ref moved distance further
  have ref_words : ref.address.InWords := ⟨by decide, by decide⟩
  have words : distance.InWords := ⟨by decide, by decide⟩
  have further_words : further.InWords := ⟨by decide, by decide⟩
  have total_words : (distance.add further).InWords := ⟨by decide, by decide⟩
  have on_grid : ref.OnGrid := ⟨by decide, by decide, by decide, by decide⟩
  have shifted : ref.shifted distance = some moved := by decide
  have way : ref.shifted (.between ⟨"S", 1048576, 1⟩ ⟨"S", 1, 9⟩) = some moved := by decide
  obtain ⟨shifts, ways⟩ := shifts_act_on_grid ref_words
  obtain ⟨reaches, shifts⟩ := shifts distance words
  obtain ⟨displaced, onward⟩ := shifts moved shifted
  exact ⟨ref_words, words, further_words, total_words, reaches.1 ⟨moved, shifted⟩, shifted,
    displaced, onward further further_words total_words, on_grid, way,
    ways _ _ ⟨by decide, by decide⟩ ⟨by decide, by decide⟩ on_grid moved way⟩

end FormulaRuns
