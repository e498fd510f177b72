import Handoff.Proofs.LayerRanges
import Handoff.Proofs.RoundedRoots
import Handoff.Proofs.TokenColors

/-! The colours of classes. A colour is called by the first of the entries of the palette that
are nearest to it, if that is nearer than 20, and else by its own digits. What is compared are
rounded roots, and they are in the order of the squares. -/

namespace Handoff

/-! The first least entry of a list -/

section

variable {α β : Type} [LinearOrder β] {weight : α → β}

/-- An entry that is less than all before it, and no more than all behind it. -/
def IsFirstLeast (weight : α → β) (entries : List α) (entry : α) : Prop :=
  ∃ before behind, entries = before ++ entry :: behind ∧ (∀ other ∈ before, weight entry < weight other) ∧
    ∀ other ∈ behind, weight entry ≤ weight other

theorem isFirstLeast_cons {entry : α} {behind : List α} (least : ∀ other ∈ behind, weight entry ≤ weight other) :
    IsFirstLeast weight (entry :: behind) entry :=
  ⟨[], behind, rfl, List.forall_mem_nil _, least⟩

theorem isFirstLeast_singleton (entry : α) : IsFirstLeast weight [entry] entry := isFirstLeast_cons (List.forall_mem_nil _)

theorem IsFirstLeast.le {entries : List α} {entry : α} (least : IsFirstLeast weight entries entry) :
    ∀ other ∈ entries, weight entry ≤ weight other := by
  obtain ⟨before, behind, rfl, less, no⟩ := least
  exact List.forall_mem_append.mpr ⟨fun other member => (less other member).le, List.forall_mem_cons.mpr ⟨le_rfl, no⟩⟩

theorem IsFirstLeast.mem {entries : List α} {entry : α} (least : IsFirstLeast weight entries entry) : entry ∈ entries := by
  obtain ⟨before, behind, rfl, -, -⟩ := least
  exact List.mem_append_right before List.mem_cons_self

/-- A further entry takes the place of the least one only if it is less. -/
theorem IsFirstLeast.concat {entries : List α} {entry : α} (least : IsFirstLeast weight entries entry) (next : α) :
    IsFirstLeast weight (entries ++ [next]) (if weight entry ≤ weight next then entry else next) := by
  split
  next no =>
    obtain ⟨before, behind, rfl, less, kept⟩ := least
    refine ⟨before, behind ++ [next], by simp, less, List.forall_mem_append.mpr ⟨kept, List.forall_mem_singleton.mpr no⟩⟩
  next more =>
    refine ⟨entries, [], rfl, fun other member => ?_, List.forall_mem_nil _⟩
    exact lt_of_lt_of_le (not_le.mp more) (least.le other member)

theorem IsFirstLeast.unique {entries : List α} {first second : α} (least : IsFirstLeast weight entries first)
    (leastToo : IsFirstLeast weight entries second) : first = second := by
  have low := least.le second leastToo.mem
  have high := leastToo.le first least.mem
  obtain ⟨before, behind, rfl, less, -⟩ := least
  obtain ⟨beforeToo, behindToo, same, lessToo, -⟩ := leastToo
  rcases List.append_eq_append_iff.mp same with ⟨between, rfl, rest⟩ | ⟨between, rfl, rest⟩
  · cases between with
    | nil => exact (List.cons.inj rest).1
    | cons head _ =>
      obtain ⟨rfl, -⟩ := List.cons.inj rest
      exact absurd low (not_le.mpr (lessToo first (by simp)))
  · cases between with
    | nil => exact (List.cons.inj rest).1.symm
    | cons head _ =>
      obtain ⟨rfl, -⟩ := List.cons.inj rest
      exact absurd high (not_le.mpr (less second (by simp)))

theorem exists_isFirstLeast {entries : List α} (filled : entries ≠ []) : ∃ entry, IsFirstLeast weight entries entry := by
  induction entries using List.reverseRecOn with
  | nil => exact absurd rfl filled
  | append_singleton entries last ih =>
    rcases List.eq_nil_or_concat' entries with rfl | ⟨_, _, ended⟩
    · exact ⟨last, isFirstLeast_singleton last⟩
    · obtain ⟨best, least⟩ := ih (by simp [ended])
      exact ⟨_, least.concat last⟩

/-- A scan that keeps what it has unless the next entry is less finds the first least entry. -/
theorem IsFirstLeast.foldl_eq {γ : Type} {scan : Option γ → α → Option γ} {found : α → γ} {entries : List α} {entry : α}
    (least : IsFirstLeast weight entries entry) (first : ∀ entry ∈ entries, scan none entry = some (found entry))
    (next : ∀ best ∈ entries, ∀ entry ∈ entries,
      scan (some (found best)) entry = some (found (if weight best ≤ weight entry then best else entry))) :
    entries.foldl scan none = some (found entry) := by
  induction entries using List.reverseRecOn generalizing entry with
  | nil => exact absurd least.mem List.not_mem_nil
  | append_singleton entries last ih =>
    rw [List.foldl_concat]
    rcases List.eq_nil_or_concat' entries with rfl | ⟨_, _, ended⟩
    · rw [least.unique (isFirstLeast_singleton last)]
      exact first last List.mem_cons_self
    · have before : ∃ best, IsFirstLeast weight entries best := exists_isFirstLeast (by simp [ended])
      obtain ⟨best, bestLeast⟩ := before
      rw [ih bestLeast (fun entry member => first entry (by simp [member]))
        fun best member entry memberToo => next best (by simp [member]) entry (by simp [memberToo])]
      rw [next best (List.mem_append_left _ bestLeast.mem) last (by simp), least.unique (bestLeast.concat last)]

end

namespace Color
open Binary64

/-- The distance as it is computed from the channels, with every step rounded. -/
def steppedDistance (a b : Color) : Binary64 :=
  let red := ofNat a.red.toNat - ofNat b.red.toNat
  let green := ofNat a.green.toNat - ofNat b.green.toNat
  let blue := ofNat a.blue.toNat - ofNat b.blue.toNat
  (red * red + green * green + blue * blue).sqrt

/-- Colours with the same channels, whatever their opacity. -/
def IsAlike (a b : Color) : Prop := a.red = b.red ∧ a.green = b.green ∧ a.blue = b.blue

theorem isAlike_rgb (color : Color) : color.IsAlike (rgb color.red color.green color.blue) := by
  simp only [IsAlike, rgb, rgba, and_self]

theorem squaredGap_eq (a b : UInt8) :
    squaredGap a b = ((a.toNat : Int) - b.toNat).natAbs * ((a.toNat : Int) - b.toNat).natAbs := by
  unfold squaredGap
  dsimp only
  have square := mul_self_nonneg ((a.toNat : Int) - b.toNat)
  rw [← Int.natAbs_mul]
  omega

theorem squaredGap_le (a b : UInt8) : squaredGap a b ≤ 255 * 255 := by
  have first := a.toNat_lt
  have second := b.toNat_lt
  rw [squaredGap_eq]
  exact Nat.mul_le_mul (by omega) (by omega)

private theorem squaredGap_eq_zero_iff {a b : UInt8} : squaredGap a b = 0 ↔ a = b := by
  rw [squaredGap_eq, mul_self_eq_zero, Int.natAbs_eq_zero, Int.sub_eq_zero, Int.natCast_inj, UInt8.toNat_inj]

theorem squaredDistance_lt (a b : Color) : squaredDistance a b < 2 ^ 18 := by
  have red := squaredGap_le a.red b.red
  have green := squaredGap_le a.green b.green
  have blue := squaredGap_le a.blue b.blue
  unfold squaredDistance
  omega

theorem squaredDistance_eq_zero_iff {a b : Color} : squaredDistance a b = 0 ↔ a.IsAlike b := by
  rw [squaredDistance, Nat.add_eq_zero_iff, Nat.add_eq_zero_iff, squaredGap_eq_zero_iff, squaredGap_eq_zero_iff,
    squaredGap_eq_zero_iff, and_assoc, IsAlike]

/-- Each step of a distance before the root is exact. -/
theorem steppedDistance_eq (a b : Color) : a.steppedDistance b = a.distance b := by
  have square : ∀ x y : UInt8, (ofNat x.toNat - ofNat y.toNat) * (ofNat x.toNat - ofNat y.toNat) = ofNat (squaredGap x y) := by
    intro x y
    have first := x.toNat_lt
    have second := y.toNat_lt
    rw [ofNat_sub_ofNat (by omega) (by omega), ofInt_mul_self (by omega), squaredGap_eq]
  have red := squaredGap_le a.red b.red
  have green := squaredGap_le a.green b.green
  have blue := squaredGap_le a.blue b.blue
  rw [steppedDistance, distance, squaredDistance]
  simp only [square]
  rw [ofNat_add_ofNat (by omega) (by omega), ofNat_add_ofNat (by omega) (by omega)]

end Color

namespace Classes
open Binary64

/-- What is found to be nearest is the first entry at the least distance. -/
theorem exists_nearest (color : Color) :
    ∃ entry, IsFirstLeast (color.squaredDistance ·.color) palette entry ∧
      nearest? color = some (entry, color.distance entry.color) := by
  have some : ∃ entry, IsFirstLeast (color.squaredDistance ·.color) palette entry := exists_isFirstLeast (by decide)
  obtain ⟨entry, least⟩ := some
  refine ⟨entry, least, ?_⟩
  unfold nearest?
  apply least.foldl_eq
  · intro _ _
    rfl
  · intro best _ candidate _
    -- Squares of distances are so small that rounding keeps the order of their roots.
    simp only [nearer, Color.distance, sqrt_ofNat_le_iff (Color.squaredDistance_lt _ _) (Color.squaredDistance_lt _ _)]
    split <;> rfl

private theorem distance_lt_threshold_iff {a b : Color} : a.distance b < nearnessThreshold ↔ a.squaredDistance b < 400 := by
  have root : nearnessThreshold = (ofNat (20 * 20)).sqrt := (@sqrt_ofNat_mul_self 20 (by decide)).symm
  rw [root, Color.distance, sqrt_ofNat_lt_iff (Color.squaredDistance_lt a b) (by decide)]

/-- Each colour of the palette is its own nearest. -/
theorem eq_of_isAlike {color : Color} {entry own : NamedColor} (least : IsFirstLeast (color.squaredDistance ·.color) palette entry)
    (listed : own ∈ palette) (alike : color.IsAlike own.color) : entry = own := by
  have distinct : (palette.map fun entry => (entry.color.red, entry.color.green, entry.color.blue)).Nodup := by decide +kernel
  have zero : color.squaredDistance entry.color = 0 :=
    Nat.le_zero.mp (Color.squaredDistance_eq_zero_iff.mpr alike ▸ least.le own listed)
  obtain ⟨red, green, blue⟩ := Color.squaredDistance_eq_zero_iff.mp zero
  obtain ⟨ownRed, ownGreen, ownBlue⟩ := alike
  refine List.inj_on_of_nodup_map distinct least.mem listed ?_
  simp only [← red, ← green, ← blue, ownRed, ownGreen, ownBlue]

/-! Classes read as colours -/

/-- The colour that a name stands for: digits in brackets, or an entry of the palette. -/
def namedColor? (name : List Char) : Option Color :=
  match name with
  | '[' :: '#' :: rest => if rest.getLast? = some ']' then Color.ofHex? (String.ofList rest.dropLast) else none
  | _ => (palette.find? (·.name.toList = name)).map (·.color)

/-- The colour that a class shows for a purpose, whatever its opacity. -/
def shownColor? (purpose cls : String) : Option Color :=
  (cls.toList.dropPrefix? (purpose ++ "-").toList).bind fun rest => namedColor? (rest.takeWhile (· != '/'))

private theorem namedColor?_palette {entry : NamedColor} (listed : entry ∈ palette) :
    namedColor? entry.name.toList = some entry.color := by
  have distinct : (palette.map (·.name)).Nodup := by decide +kernel
  obtain ⟨c, begins, other⟩ := head?_palette listed
  unfold namedColor?
  split
  next spelled =>
    rw [spelled] at begins
    exact absurd (Option.some.inj begins).symm other
  next =>
    have found : ∃ own, palette.find? (·.name.toList = entry.name.toList) = some own :=
      Option.isSome_iff_exists.mp (List.find?_isSome.mpr ⟨entry, listed, by simp⟩)
    obtain ⟨own, found⟩ := found
    have named : own.name = entry.name := String.toList_injective (by simpa using List.find?_some found)
    rw [found, List.inj_on_of_nodup_map distinct (List.mem_of_find?_eq_some found) listed named]
    rfl

end Classes

namespace Color

private theorem hexChannel?_hexPair (byte : UInt8) :
    hexChannel? (Nat.digitChar (byte.toNat / 16)) (Nat.digitChar (byte.toNat % 16)) = some byte := by
  rw [hexChannel?]
  change (Text.hexNumber? (Text.hexPair byte.toNat)).map UInt8.ofNat = _
  rw [(isHexPair_hexPair byte).value, Option.map_some, UInt8.ofNat_toNat]

/-- The digits of a colour are read back as its channels. -/
theorem ofHex?_hex (color : Color) : ofHex? color.hex = some (rgb color.red color.green color.blue) := by
  have unmarked : '#' ∉ color.hex.toList := fun member => absurd (Classes.mem_smallDigits member) (by decide)
  have spelled : color.hex.toList = Text.hexPair color.red.toNat ++ (Text.hexPair color.green.toNat ++ Text.hexPair color.blue.toNat) := by
    rw [hex, String.toList_ofList, List.flatMap_cons, List.flatMap_cons, List.flatMap_singleton]
  rw [spelled] at unmarked
  have first : Nat.digitChar (color.red.toNat / 16) ≠ '#' := fun same => unmarked (same ▸ List.mem_cons_self)
  unfold ofHex?
  rw [spelled]
  simp [Text.hexPair, hexChannel?_hexPair, first]

end Color

namespace Classes
open Binary64

private theorem namedColor?_hex (color : Color) :
    namedColor? ("[#" ++ color.hex ++ "]").toList = some (.rgb color.red color.green color.blue) := by
  have spelled : ("[#" ++ color.hex ++ "]").toList = '[' :: '#' :: (color.hex.toList ++ [']']) := by
    simp only [String.toList_append]
    rfl
  rw [spelled, namedColor?, if_pos List.getLast?_concat, List.dropLast_concat, String.ofList_toList, Color.ofHex?_hex]

/-- What stands between the purpose of a class and the mark of its opacity is read as a name. -/
theorem shownColor?_append (purpose : String) {name mark : String} (whole : '/' ∉ name.toList) (known : IsOpacityMark mark) :
    shownColor? purpose (purpose ++ "-" ++ name ++ mark) = namedColor? name.toList := by
  have rest : (purpose ++ "-" ++ name ++ mark).toList.dropPrefix? (purpose ++ "-").toList = some (name.toList ++ mark.toList) :=
    List.dropPrefix?_eq_some_iff.mpr ⟨(purpose ++ "-").toList, by simp, beq_self_eq_true _⟩
  have ends : mark.toList.takeWhile (· != '/') = [] := by
    rcases known with rfl | ⟨percent, rfl⟩
    · rfl
    · rw [String.toList_append]
      rfl
  have inside : ∀ c ∈ name.toList, (c != '/') = true := fun c member => bne_iff_ne.mpr fun same => whole (same ▸ member)
  rw [shownColor?, rest, Option.bind_some, List.takeWhile_append_of_pos inside, ends, List.append_nil]

private theorem slash_not_mem_palette {entry : NamedColor} (listed : entry ∈ palette) : '/' ∉ entry.name.toList :=
  fun member => absurd (isNameCharacter_of_mem_palette listed '/' member) (by decide)

private theorem slash_not_mem_literal (color : Color) : '/' ∉ ("[#" ++ color.hex ++ "]").toList := by
  refine Naming.not_mem_append (Naming.not_mem_append (by decide) fun member => ?_) (by decide)
  exact absurd (mem_smallDigits member) (by decide)

/-! Percentages -/

private theorem percentage_mem {x : Binary64} (unit : 0 ≤ x ∧ x ≤ 1) : 0 ≤ percentage x ∧ percentage x ≤ 100 := by
  have finite := isFinite_of_mem_unit unit
  cases x with
  | nan | infinite => cases finite
  | finite negative m =>
    have low := (le_iff_of_position (position_ofNat (by decide : 0 < 1 <<< 53)) rfl).mp unit.1
    have high := (le_iff_of_position rfl (position_ofNat (by decide : 1 < 1 <<< 53))).mp unit.2
    have units : m.units ≤ one := by
      cases negative <;> simp only [signed, Bool.false_eq_true, if_false, if_true] at low high <;> omega
    have wide : m.units * 100 ≤ 100 * one := by omega
    obtain ⟨product, below, same⟩ := ofUnits_eq_of_le (by decide : 100 < 1 <<< 53) wide negative
    have whole := wholeOnes_le below
    have scaled : Binary64.finite negative m * 100 = .finite negative product := (finite_mul_ofNat (by decide) negative m).trans same
    rw [percentage, scaled, roundToInt, signed]
    split <;> omega

/-- The mark of a colour's opacity: a percentage, if one can look through the colour. -/
structure IsMarkOf (color : Color) (mark : String) : Prop where
  translucent : color.alpha < 1 → ∃ percent ≤ 100, mark = "/" ++ toString percent
  solid : ¬color.alpha < 1 → mark = ""

private theorem isMarkOf_opacityMark (color : Color) : IsMarkOf color (opacityMark color) := by
  constructor
  · intro less
    obtain ⟨low, high⟩ := percentage_mem color.alpha_mem
    obtain ⟨percent, same⟩ := Int.eq_ofNat_of_zero_le low
    refine ⟨percent, by omega, ?_⟩
    rw [opacityMark, Color.isTranslucent, decide_eq_true less, if_pos rfl, same]
    rfl
  · intro more
    rw [opacityMark, Color.isTranslucent, decide_eq_false more, if_neg Bool.false_ne_true]

/-- How a class calls a colour that no token has, and what it shows. -/
structure Quantizes (purpose : String) (color : Color) (entry : NamedColor) (mark cls : String) : Prop where
  named : color.squaredDistance entry.color < 400 → cls = purpose ++ "-" ++ entry.name ++ mark
  literal : 400 ≤ color.squaredDistance entry.color → cls = purpose ++ "-" ++ ("[#" ++ color.hex ++ "]") ++ mark
  near : ∃ shown, shownColor? purpose cls = some shown ∧ color.squaredDistance shown < 400
  same : 400 ≤ color.squaredDistance entry.color → ∃ shown, shownColor? purpose cls = some shown ∧ color.IsAlike shown

private theorem quantizes_colorClass (purpose : String) {color : Color} {tokens : Option TokenMap}
    (unknown : tokens.bind (·.get? color.hex) = none)
    {entry : NamedColor} (listed : entry ∈ palette) (found : nearest? color = some (entry, color.distance entry.color)) :
    Quantizes purpose color entry (opacityMark color) (colorClass purpose color tokens) := by
  have marked := isOpacityMark_opacityMark color
  have spelled : colorName color tokens =
      if color.squaredDistance entry.color < 400 then entry.name else "[#" ++ color.hex ++ "]" := by
    rw [colorName, unknown, found]
    simp only [distance_lt_threshold_iff]
  rw [colorClass_eq, spelled]
  split
  next near =>
    have shown := (shownColor?_append purpose (slash_not_mem_palette listed) marked).trans (namedColor?_palette listed)
    exact ⟨fun _ => rfl, fun far => absurd near (Nat.not_lt.mpr far), ⟨_, shown, near⟩, fun far => absurd near (Nat.not_lt.mpr far)⟩
  next far =>
    have shown := (shownColor?_append purpose (slash_not_mem_literal color) marked).trans (namedColor?_hex color)
    have alike := color.isAlike_rgb
    have zero : color.squaredDistance (.rgb color.red color.green color.blue) < 400 :=
      (Color.squaredDistance_eq_zero_iff.mpr alike).trans_lt (by decide)
    exact ⟨fun near => absurd near far, fun _ => rfl, ⟨_, shown, zero⟩, fun _ => ⟨_, shown, alike⟩⟩

/-- The class of a colour goes by the first of the nearest entries of the palette, which the
rounded distances find; a token goes before the palette, and an opacity below one is marked. -/
theorem colorClass_quantized (purpose : String) (color : Color) (tokens : Option TokenMap) :
    ∃ entry mark, IsFirstLeast (color.squaredDistance ·.color) palette entry ∧
      nearest? color = some (entry, color.steppedDistance entry.color) ∧ IsMarkOf color mark ∧
      (∀ map ∈ tokens, ∀ name, (color.hex, name) ∈ map.toList →
        colorClass purpose color tokens = purpose ++ "-" ++ ("[var(" ++ name ++ ")]") ++ mark) ∧
      ((∀ map ∈ tokens, color.hex ∉ map.toList.map Prod.fst) →
        Quantizes purpose color entry mark (colorClass purpose color tokens)) ∧
      ∀ own ∈ palette, color.IsAlike own.color → entry = own := by
  obtain ⟨entry, least, found⟩ := exists_nearest color
  refine ⟨entry, opacityMark color, least, ?_, isMarkOf_opacityMark color, ?_, ?_, fun own => eq_of_isAlike least⟩
  · rw [found, Color.steppedDistance_eq]
  · rintro map ⟨⟩ name listed
    rw [colorClass_eq, colorName, Option.bind_some, TokenMap.get?_hex_iff.mpr listed]
  · intro unlisted
    refine quantizes_colorClass purpose ?_ least.mem found
    cases tokens with
    | none => rfl
    | some map =>
      refine Option.eq_none_iff_forall_ne_some.mpr fun name known => unlisted map rfl ?_
      exact List.mem_map.mpr ⟨_, TokenMap.get?_hex_iff.mp known, rfl⟩

end Classes

end Handoff
