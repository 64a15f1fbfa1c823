import DccCua.Showcase.Resize
import Mathlib.Data.List.Range
import Mathlib.Order.MinMax

/-! # Resized frames

The row and the column that a pixel is read from are products of 32 bits that saturate, divided by the new size. They are the
floors that nearest neighbours ask for as long as the last of them is. -/

namespace DccCua
namespace Showcase

/-- The four bytes of a pixel. -/
def pixelAt (buffer : List UInt8) (width x y : Nat) : List UInt8 := (buffer.drop ((y * width + x) * 4)).take 4

/-- The floor of the last index of an axis is one that 32 bits reach. -/
def ExactAxis (source size : Nat) : Prop := (size - 1) * source / size ≤ (2 ^ 32 - 1) / size

instance (source size : Nat) : Decidable (ExactAxis source size) := inferInstanceAs (Decidable (_ ≤ _))

/-- The frame is resized: every read is inside the source, every pixel is written once, and it is the one that the floors
    name. -/
structure Resized (source : List UInt8) (sourceWidth sourceHeight width height : Nat) : Prop where
  inside : ∀ copy ∈ copies sourceWidth sourceHeight width height, copy.1 + 4 ≤ source.length
  once : (copies sourceWidth sourceHeight width height).map Prod.snd = (List.range (width * height)).map (· * 4)
  pixels : ∃ output, resizeBgra source sourceWidth sourceHeight width height = some output ∧
    output.length = width * height * 4 ∧ ∀ x < width, ∀ y < height,
      pixelAt output width x y = pixelAt source sourceWidth (x * sourceWidth / width) (y * sourceHeight / height)

/-! ### The loops -/

/-- Two nested loops are one over all pixels. -/
theorem flatMap_range {α : Type} (g : Nat → Nat → α) {width : Nat} (hwidth : 0 < width) (height : Nat) :
    ((List.range height).flatMap fun y => (List.range width).map fun x => g y x) =
      (List.range (width * height)).map fun k => g (k / width) (k % width) := by
  induction height with
  | zero => rfl
  | succ height ih =>
    rw [List.range_succ, List.flatMap_append, ih, Nat.mul_succ, List.range_add, List.map_append, List.flatMap_singleton,
      List.map_map]
    refine congrArg (_ ++ ·) (List.map_congr_left fun x hx => ?_)
    have hlt : x < width := List.mem_range.mp hx
    rw [Function.comp_apply, Nat.mul_add_div hwidth, Nat.div_eq_of_lt hlt, Nat.add_zero, Nat.mul_add_mod, Nat.mod_eq_of_lt hlt]

section
variable {sourceWidth sourceHeight width height : Nat}

/-- The index that is read for a pixel. -/
def readIndex (sourceWidth sourceHeight width height x y : Nat) : Nat :=
  (saturatingMul y sourceHeight / height * sourceWidth + saturatingMul x sourceWidth / width) * 4

theorem copies_eq (hwidth : 0 < width) : copies sourceWidth sourceHeight width height =
    (List.range (width * height)).map fun k =>
      (readIndex sourceWidth sourceHeight width height (k % width) (k / width), k * 4) := by
  refine (flatMap_range _ hwidth height).trans (List.map_congr_left fun k _ => ?_)
  rw [Nat.div_add_mod']
  rfl

/-- A saturated product names no later row or column than the product itself. -/
theorem saturatingMul_div (i source size : Nat) :
    saturatingMul i source / size = min (i * source / size) ((2 ^ 32 - 1) / size) :=
  Monotone.map_min fun _ _ h => Nat.div_le_div_right h

theorem floor_lt {i source size : Nat} (hsource : 0 < source) (hi : i < size) : i * source / size < source :=
  Nat.div_lt_of_lt_mul (Nat.mul_lt_mul_of_pos_right hi hsource)

theorem saturatingMul_div_lt {i source size : Nat} (hsource : 0 < source) (hi : i < size) :
    saturatingMul i source / size < source := by
  rw [saturatingMul_div]
  exact Nat.lt_of_le_of_lt (Nat.min_le_left _ _) (floor_lt hsource hi)

/-- The indices of an axis are all exact when the last one is. -/
theorem exactAxis_iff {source size : Nat} (hsize : 0 < size) :
    ExactAxis source size ↔ ∀ i < size, saturatingMul i source / size = i * source / size := by
  unfold ExactAxis
  refine ⟨fun hlast i hi => ?_, fun hall => ?_⟩
  · rw [saturatingMul_div]
    have hle : i * source / size ≤ (size - 1) * source / size :=
      Nat.div_le_div_right (Nat.mul_le_mul_right source (Nat.le_sub_one_of_lt hi))
    exact Nat.min_eq_left (Nat.le_trans hle hlast)
  · have hlast := hall (size - 1) (Nat.sub_lt hsize Nat.one_pos)
    rw [saturatingMul_div] at hlast
    exact min_eq_left_iff.mp hlast

/-- A row and a column of the source are inside it. -/
theorem index_lt {column row : Nat} (hcolumn : column < sourceWidth) (hrow : row < sourceHeight) :
    (row * sourceWidth + column) * 4 + 4 ≤ 4 * sourceWidth * sourceHeight := by
  have hrows : row * sourceWidth + sourceWidth ≤ sourceHeight * sourceWidth := by
    rw [← Nat.succ_mul]
    exact Nat.mul_le_mul_right _ hrow
  rw [Nat.mul_assoc, Nat.mul_comm sourceWidth]
  omega

end

/-! ### The copies -/

variable {source output : List UInt8}

theorem slicePixel_eq {index : Nat} (h : index + 4 ≤ source.length) : slicePixel source index = some ((source.drop index).take 4) :=
  if_pos h

/-- The pixels that are copied one after another fill the rest of the output. -/
theorem copyAll_eq (reads : Nat → Nat) : ∀ (count start : Nat) (done rest : List UInt8), done.length = start * 4 →
    rest.length = count * 4 → (∀ k, start ≤ k → k < start + count → reads k + 4 ≤ source.length) →
    copyAll source ((List.range' start count).map fun k => (reads k, k * 4)) (done ++ rest) =
      some (done ++ (List.range' start count).flatMap fun k => (source.drop (reads k)).take 4)
  | 0, start, done, rest, _, hrest, _ => by
    obtain rfl : rest = [] := List.length_eq_zero_iff.mp (hrest.trans (Nat.zero_mul 4))
    rfl
  | count + 1, start, done, rest, hdone, hrest, hreads => by
    have hread := hreads start (Nat.le_refl _) (by omega)
    have hslice : ((source.drop (reads start)).take 4).length = 4 := by
      rw [List.length_take, List.length_drop]
      omega
    have hcopy : copyPixel (done ++ rest) (start * 4) ((source.drop (reads start)).take 4) =
        some (done ++ (source.drop (reads start)).take 4 ++ rest.drop 4) := by
      unfold copyPixel
      rw [if_pos (by rw [List.length_append]; omega), ← hdone, List.take_left, List.drop_append,
        List.drop_eq_nil_of_le (Nat.le_add_right _ _), List.nil_append, Nat.add_sub_cancel_left]
    rw [List.range'_succ, List.map_cons, List.flatMap_cons]
    unfold copyAll
    rw [slicePixel_eq hread]
    show (copyPixel (done ++ rest) (start * 4) ((source.drop (reads start)).take 4)).bind _ = _
    rw [hcopy, Option.bind_some]
    rw [copyAll_eq reads count (start + 1) _ (rest.drop 4) (by rw [List.length_append, hdone, hslice]; omega)
      (by rw [List.length_drop]; omega) fun k hk hlt => hreads k (by omega) (by omega)]
    rw [List.append_assoc]

theorem length_flatMap_range {f : Nat → List UInt8} {count : Nat} (hf : ∀ k < count, (f k).length = 4) :
    ((List.range count).flatMap f).length = count * 4 := by
  induction count with
  | zero => rfl
  | succ count ih =>
    rw [List.range_succ, List.flatMap_append, List.flatMap_singleton, List.length_append,
      ih fun k hk => hf k (Nat.lt_succ_of_lt hk), hf count (Nat.lt_succ_self count), Nat.succ_mul]

/-- A pixel among pixels of four bytes. -/
theorem pixel_flatMap {f : Nat → List UInt8} {count : Nat} (hf : ∀ k < count, (f k).length = 4) {k : Nat} (hk : k < count) :
    (((List.range count).flatMap f).drop (k * 4)).take 4 = f k := by
  obtain ⟨more, rfl⟩ : ∃ more, count = k + (more + 1) := ⟨count - k - 1, by omega⟩
  have hbefore : ((List.range k).flatMap f).length = k * 4 := length_flatMap_range fun j hj => hf j (Nat.lt_trans hj hk)
  rw [List.range_add, List.flatMap_append, ← hbefore, List.drop_left, List.range_succ_eq_map, List.map_cons, List.flatMap_cons,
    Nat.add_zero, ← hf k hk, List.take_left]

variable {sourceWidth sourceHeight width height : Nat}

/-- What the loops leave in the output: for each pixel the one that is read. -/
theorem copyAll_copies (hwidth : 0 < width)
    (hinside : ∀ copy ∈ copies sourceWidth sourceHeight width height, copy.1 + 4 ≤ source.length) :
    copyAll source (copies sourceWidth sourceHeight width height) (List.replicate (width * height * 4) 0) =
      some ((List.range (width * height)).flatMap fun k =>
        (source.drop (readIndex sourceWidth sourceHeight width height (k % width) (k / width))).take 4) := by
  rw [copies_eq hwidth] at hinside ⊢
  rw [List.range_eq_range']
  refine (copyAll_eq _ (width * height) 0 [] _ (Nat.zero_mul 4).symm List.length_replicate fun k _ hk => ?_).trans ?_
  · rw [Nat.zero_add] at hk
    exact hinside _ (List.mem_map_of_mem (List.mem_range.mpr hk))
  · rfl

/-- A pixel of the output is the one that is read for it. -/
theorem pixelAt_copied (hinside : ∀ copy ∈ copies sourceWidth sourceHeight width height, copy.1 + 4 ≤ source.length)
    {x y : Nat} (hx : x < width) (hy : y < height) :
    pixelAt ((List.range (width * height)).flatMap fun k =>
        (source.drop (readIndex sourceWidth sourceHeight width height (k % width) (k / width))).take 4) width x y =
      (source.drop (readIndex sourceWidth sourceHeight width height x y)).take 4 := by
  have hwidth : 0 < width := Nat.lt_of_le_of_lt (Nat.zero_le x) hx
  have hpixel : y * width + x < width * height := by
    have hrows : (y + 1) * width ≤ height * width := Nat.mul_le_mul_right width hy
    rw [Nat.succ_mul, Nat.mul_comm height] at hrows
    omega
  unfold pixelAt
  rw [pixel_flatMap (fun k hk => ?_) hpixel, Nat.mul_add_mod', Nat.mod_eq_of_lt hx, Nat.mul_comm y, Nat.mul_add_div hwidth,
    Nat.div_eq_of_lt hx, Nat.add_zero]
  rw [copies_eq hwidth] at hinside
  have hread := hinside _ (List.mem_map_of_mem (List.mem_range.mpr hk))
  rw [List.length_take, List.length_drop]
  exact Nat.min_eq_left (Nat.le_sub_of_add_le' hread)

/-! ### Exact sizes -/

/-- Sizes for which a frame is resized exactly: the same ones, or an output that can be allocated and two exact axes. -/
def ExactSizes (sourceWidth sourceHeight width height : Nat) : Prop :=
  (sourceWidth, sourceHeight) = (width, height) ∨
    (width * height * 4 ≤ maxAllocation ∧ ExactAxis sourceWidth width ∧ ExactAxis sourceHeight height)

instance : Decidable (ExactSizes sourceWidth sourceHeight width height) := inferInstanceAs (Decidable (_ ∨ _))

section
variable (hsourceWidth : 0 < sourceWidth) (hsourceHeight : 0 < sourceHeight) (hwidth : 0 < width)
  (hsource : source.length = 4 * sourceWidth * sourceHeight)
include hsourceWidth hsourceHeight hwidth hsource

theorem copies_inside : ∀ copy ∈ copies sourceWidth sourceHeight width height, copy.1 + 4 ≤ source.length := by
  intro copy hcopy
  rw [copies_eq hwidth] at hcopy
  obtain ⟨k, hk, rfl⟩ := List.mem_map.mp hcopy
  rw [hsource]
  refine index_lt (saturatingMul_div_lt hsourceWidth (Nat.mod_lt k hwidth)) (saturatingMul_div_lt hsourceHeight ?_)
  exact Nat.div_lt_of_lt_mul (List.mem_range.mp hk)

/-- What a resize of another size leaves, when its output can be allocated. -/
theorem resizeBgra_eq (hother : (sourceWidth, sourceHeight) ≠ (width, height)) (hallocated : width * height * 4 ≤ maxAllocation) :
    resizeBgra source sourceWidth sourceHeight width height = some ((List.range (width * height)).flatMap fun k =>
      (source.drop (readIndex sourceWidth sourceHeight width height (k % width) (k / width))).take 4) := by
  unfold resizeBgra
  rw [if_neg hother, if_neg (Nat.not_lt.mpr hallocated)]
  exact copyAll_copies hwidth (copies_inside hsourceWidth hsourceHeight hwidth hsource)

end

theorem once_copies (hwidth : 0 < width) :
    (copies sourceWidth sourceHeight width height).map Prod.snd = (List.range (width * height)).map (· * 4) := by
  rw [copies_eq hwidth, List.map_map]
  rfl

/-- A column is inside its row. -/
theorem rowMajor_inj {row column row' column' : Nat} (h : row * width + column = row' * width + column') (hcolumn : column < width)
    (hcolumn' : column' < width) : row = row' ∧ column = column' := by
  have hwidth : 0 < width := Nat.lt_of_le_of_lt (Nat.zero_le column) hcolumn
  have hrow := congrArg (· / width) h
  have hrest := congrArg (· % width) h
  simp only [Nat.mul_comm _ width, Nat.mul_add_div hwidth, Nat.mul_add_mod, Nat.div_eq_of_lt hcolumn, Nat.div_eq_of_lt hcolumn',
    Nat.mod_eq_of_lt hcolumn, Nat.mod_eq_of_lt hcolumn', Nat.add_zero] at hrow hrest
  exact ⟨hrow, hrest⟩

/-- A source with one byte set tells its pixels apart. -/
theorem marked_inj {size index marked : Nat} (hindex : index + 4 ≤ size) (hmarked : marked + 4 ≤ size)
    (h : (((List.replicate size (0 : UInt8)).set marked 1).drop index).take 4 =
      (((List.replicate size (0 : UInt8)).set marked 1).drop marked).take 4) : index = marked := by
  have hfirst : ∀ {l : List UInt8} {k : Nat}, ((l.drop k).take 4)[0]? = l[k]? := by
    intro l k
    rw [List.getElem?_take_of_lt (by decide), List.getElem?_drop, Nat.add_zero]
  have hsame := congrArg (fun l : List UInt8 => l[0]?) h
  rw [hfirst, hfirst, List.getElem?_set_self (by rw [List.length_replicate]; omega)] at hsame
  by_contra hne
  rw [List.getElem?_set_ne (Ne.symm hne), List.getElem?_replicate_of_lt (by omega)] at hsame
  cases hsame

section
variable (hsourceWidth : 0 < sourceWidth) (hsourceHeight : 0 < sourceHeight) (hwidth : 0 < width) (hheight : 0 < height)
include hsourceWidth hsourceHeight hwidth hheight

/-- If every frame is resized, the sizes are exact. -/
theorem exactSizes_of_resized (hresized : ∀ source : List UInt8, source.length = 4 * sourceWidth * sourceHeight →
    Resized source sourceWidth sourceHeight width height) : ExactSizes sourceWidth sourceHeight width height := by
  by_cases hsame : (sourceWidth, sourceHeight) = (width, height)
  · exact Or.inl hsame
  · have hallocated : width * height * 4 ≤ maxAllocation := by
      obtain ⟨output, houtput, -⟩ := (hresized (List.replicate (4 * sourceWidth * sourceHeight) 0) List.length_replicate).pixels
      by_contra hlarge
      unfold resizeBgra at houtput
      rw [if_neg hsame, if_pos (Nat.not_le.mp hlarge)] at houtput
      cases houtput
    have hreads : ∀ x < width, ∀ y < height, saturatingMul y sourceHeight / height = y * sourceHeight / height ∧
        saturatingMul x sourceWidth / width = x * sourceWidth / width := by
      intro x hx y hy
      have hfloor := index_lt (floor_lt hsourceWidth hx) (floor_lt hsourceHeight hy)
      have hread := index_lt (saturatingMul_div_lt hsourceWidth hx) (saturatingMul_div_lt hsourceHeight hy)
      -- the pixel that the floors name is marked, so it is the one that is read
      have hlength : ((List.replicate (4 * sourceWidth * sourceHeight) (0 : UInt8)).set
          ((y * sourceHeight / height * sourceWidth + x * sourceWidth / width) * 4) 1).length = 4 * sourceWidth * sourceHeight := by
        rw [List.length_set, List.length_replicate]
      obtain ⟨output, houtput, -, hpixels⟩ := (hresized _ hlength).pixels
      rw [resizeBgra_eq hsourceWidth hsourceHeight hwidth hlength hsame hallocated] at houtput
      cases houtput
      have hpixel := hpixels x hx y hy
      rw [pixelAt_copied (copies_inside hsourceWidth hsourceHeight hwidth hlength) hx hy] at hpixel
      have hindex := Nat.eq_of_mul_eq_mul_right (by decide) (marked_inj hread hfloor hpixel)
      exact rowMajor_inj hindex (saturatingMul_div_lt hsourceWidth hx) (floor_lt hsourceWidth hx)
    refine Or.inr ⟨hallocated, (exactAxis_iff hwidth).mpr fun x hx => ?_, (exactAxis_iff hheight).mpr fun y hy => ?_⟩
    · exact (hreads x hx 0 hheight).2
    · exact (hreads 0 hwidth y hy).1

theorem resized_of_exactSizes (hexact : ExactSizes sourceWidth sourceHeight width height)
    (hsource : source.length = 4 * sourceWidth * sourceHeight) : Resized source sourceWidth sourceHeight width height := by
  refine ⟨copies_inside hsourceWidth hsourceHeight hwidth hsource, once_copies hwidth, ?_⟩
  by_cases hsame : (sourceWidth, sourceHeight) = (width, height)
  · refine ⟨source, if_pos hsame, ?_, fun x hx y hy => ?_⟩
    · cases hsame
      rw [hsource, Nat.mul_assoc, Nat.mul_comm]
    · cases hsame
      rw [Nat.mul_div_cancel x hwidth, Nat.mul_div_cancel y hheight]
  · obtain ⟨hallocated, hcolumns, hrows⟩ := hexact.resolve_left hsame
    have hinside : ∀ copy ∈ copies sourceWidth sourceHeight width height, copy.1 + 4 ≤ source.length :=
      copies_inside hsourceWidth hsourceHeight hwidth hsource
    refine ⟨_, resizeBgra_eq hsourceWidth hsourceHeight hwidth hsource hsame hallocated, ?_, fun x hx y hy => ?_⟩
    · refine length_flatMap_range fun k hk => ?_
      rw [copies_eq hwidth] at hinside
      have hread := hinside _ (List.mem_map_of_mem (List.mem_range.mpr hk))
      rw [List.length_take, List.length_drop]
      exact Nat.min_eq_left (Nat.le_sub_of_add_le' hread)
    · rw [pixelAt_copied hinside hx hy]
      unfold readIndex
      rw [(exactAxis_iff hwidth).mp hcolumns x hx, (exactAxis_iff hheight).mp hrows y hy]
      rfl

end

/-- For all sizes, every frame of them is resized exactly when the sizes are exact. -/
theorem resized_iff {sourceWidth sourceHeight width height : Nat} (hsourceWidth : 0 < sourceWidth)
    (hsourceHeight : 0 < sourceHeight) (hwidth : 0 < width) (hheight : 0 < height) :
    (∀ source : List UInt8, source.length = 4 * sourceWidth * sourceHeight →
      Resized source sourceWidth sourceHeight width height) ↔ ExactSizes sourceWidth sourceHeight width height :=
  ⟨exactSizes_of_resized hsourceWidth hsourceHeight hwidth hheight,
    fun hexact _ hsource => resized_of_exactSizes hsourceWidth hsourceHeight hwidth hheight hexact hsource⟩

/-- A frame of three rows is made one of two rows. -/
theorem resized_iff_rows : Resized [1, 1, 1, 1, 2, 2, 2, 2, 3, 3, 3, 3] 1 3 1 2 :=
  (resized_iff (by decide) (by decide) (by decide) (by decide)).mpr (Or.inr (by decide)) _ rfl

/-- A column of 131072 rows is not resized to one of 65536: from the row 32768 on the products saturate. -/
theorem tall_column_misread : ∃ sourceHeight height, 0 < height ∧ height < sourceHeight ∧ sourceHeight < 2 ^ 32 ∧
    saturatingMul 32768 sourceHeight / height = 65535 ∧ 32768 * sourceHeight / height = 65536 ∧
      ∃ source : List UInt8, source.length = 4 * 1 * sourceHeight ∧ ¬Resized source 1 sourceHeight 1 height := by
  refine ⟨131072, 65536, by decide, by decide, by decide, by decide, by decide, ?_⟩
  by_contra hnone
  refine absurd (@exactSizes_of_resized 1 131072 1 65536 (by decide)
    (by decide) (by decide) (by decide) fun source hsource => ?_) (by decide)
  by_contra hbad
  exact hnone ⟨source, hsource, hbad⟩

end Showcase
end DccCua
