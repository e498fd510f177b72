import Handoff.Proofs.FetchOutcomes
import Handoff.Proofs.NameCharacters
import Mathlib.Data.List.TakeWhile

/-! Addresses below the address of a service. What comes after the first part of a path takes no
part in whether the address can be read, nor in why not. -/

namespace Handoff

/-- Two results that fail for the same reasons. -/
def FailAlike {ε α β : Type} (first : Except ε α) (second : Except ε β) : Prop :=
  ∀ error, first = .error error ↔ second = .error error

namespace FailAlike

variable {ε α β γ δ : Type}

theorem refl (result : Except ε α) : FailAlike result result := fun _ => .rfl

theorem symm {first : Except ε α} {second : Except ε β} (alike : FailAlike first second) : FailAlike second first :=
  fun error => (alike error).symm

theorem trans {first : Except ε α} {second : Except ε β} {third : Except ε γ} (alike : FailAlike first second)
    (more : FailAlike second third) : FailAlike first third := fun error => (alike error).trans (more error)

theorem ok (value : α) (other : β) : FailAlike (.ok value : Except ε α) (.ok other : Except ε β) :=
  fun _ => ⟨nofun, nofun⟩

/-- Steps that fail alike, whatever is passed on from one to the other. -/
theorem bind (result : Except ε α) {f : α → Except ε β} {g : α → Except ε γ} (alike : ∀ value, FailAlike (f value) (g value)) :
    FailAlike (result >>= f) (result >>= g) := by
  cases result with
  | error failure => exact fun _ => ⟨fun same => congrArg _ (Except.error.inj same), fun same => congrArg _ (Except.error.inj same)⟩
  | ok value => exact alike value

/-- A last step that cannot fail. -/
theorem bind_ok (result : Except ε α) (f : α → β) : FailAlike (result >>= fun value => .ok (f value)) result := by
  cases result with
  | error failure => exact fun _ => ⟨fun same => congrArg _ (Except.error.inj same), fun same => congrArg _ (Except.error.inj same)⟩
  | ok value => exact ok _ _

end FailAlike

namespace Url

variable {kind : Kind} {scheme : String}

private theorem readAuthority_alike {first second : List Char}
    (place : first.takeWhile (!kind.isSlash ·) = second.takeWhile (!kind.isSlash ·)) :
    FailAlike (readAuthority scheme kind first) (readAuthority scheme kind second) := by
  unfold readAuthority
  simp only [place]
  -- The user ends at the last at sign of the place, if it has one.
  split
  all_goals
    split
    · exact .refl _
    refine .bind _ fun host => ?_
    split
    · exact .refl _
    · exact .bind _ fun number => .ok _ _

/-- A service is reached where the slashes after the scheme end, up to the next one. -/
def place (chars : List Char) : List Char := (chars.dropWhile Kind.special.isSlash).takeWhile (!Kind.special.isSlash ·)

private theorem readPlace_alike (scheme : String) (chars : List Char) :
    FailAlike (readPlace scheme .special chars) (readAuthority scheme .special (place chars)) :=
  (FailAlike.bind_ok _ _).trans (readAuthority_alike (by rw [place, List.takeWhile_idem]))

theorem place_cons_of_slash {c : Char} (slash : Kind.special.isSlash c = true) (chars : List Char) :
    place (c :: chars) = place chars := by
  rw [place, List.dropWhile_cons_of_pos slash, place]

theorem place_cons_of_not {c : Char} (other : Kind.special.isSlash c = false) (chars : List Char) :
    place (c :: chars) = c :: chars.takeWhile (!Kind.special.isSlash ·) := by
  rw [place, List.dropWhile_cons_of_neg (by simp [other]), List.takeWhile_cons_of_pos (by simp [other])]

/-- What comes before the query and the fragment of an address. -/
def beforeMarks (chars : List Char) : List Char := (cutAt '?' (cutAt '#' chars).1).1

private theorem fst_cutAt (mark : Char) (chars : List Char) : (cutAt mark chars).1 = chars.takeWhile (· != mark) := by
  rw [cutAt]
  split
  next none =>
    have whole := List.takeWhile_append_dropWhile (p := (· != mark)) (l := chars)
    rw [none, List.append_nil] at whole
    exact whole.symm
  next => rfl

theorem beforeMarks_cons (c : Char) (chars : List Char) :
    beforeMarks (c :: chars) = if c = '#' ∨ c = '?' then [] else c :: beforeMarks chars := by
  simp only [beforeMarks, fst_cutAt]
  by_cases hash : c = '#'
  · simp [hash]
  · by_cases question : c = '?' <;> simp [hash, question]

private theorem isSlash_of_isAlphanum {c : Char} (plain : c.isAlphanum = true) : Kind.special.isSlash c = false := by
  rw [Kind.isSlash, Bool.or_eq_false_iff, Bool.and_eq_false_iff, beq_eq_false_iff_ne, beq_eq_false_iff_ne]
  refine ⟨?_, .inl ?_⟩ <;> rintro rfl <;> exact absurd plain (by decide)

/-- What comes after a slash takes no part in what comes before the first one. -/
theorem takeWhile_beforeMarks (before rest : List Char) :
    (beforeMarks (before ++ '/' :: rest)).takeWhile (!Kind.special.isSlash ·) =
      (beforeMarks before).takeWhile (!Kind.special.isSlash ·) := by
  induction before with
  | nil =>
    rw [List.nil_append, beforeMarks_cons, if_neg (by decide), List.takeWhile_cons_of_neg (by decide)]
    rfl
  | cons c before ih =>
    rw [List.cons_append, beforeMarks_cons, beforeMarks_cons]
    split
    · rfl
    · rw [List.takeWhile_cons, List.takeWhile_cons, ih]

private theorem place_beforeMarks (before rest : List Char) {segment : List Char} (filled : segment ≠ [])
    (plain : ∀ c ∈ segment, c.isAlphanum = true) :
    place (beforeMarks (before ++ '/' :: (segment ++ '/' :: rest))) = place (beforeMarks (before ++ '/' :: segment)) := by
  induction before with
  | nil =>
    have slash : Kind.special.isSlash '/' = true := rfl
    have goesOn : ¬('/' = '#' ∨ '/' = '?') := by decide
    obtain ⟨c, segment, rfl⟩ := List.exists_cons_of_ne_nil filled
    have alphanumeric := plain c List.mem_cons_self
    have unmarked : ¬(c = '#' ∨ c = '?') := by
      rintro (rfl | rfl) <;> exact absurd alphanumeric (by decide)
    simp only [List.nil_append, List.cons_append, beforeMarks_cons, if_neg goesOn, if_neg unmarked, place_cons_of_slash slash,
      place_cons_of_not (isSlash_of_isAlphanum alphanumeric), takeWhile_beforeMarks]
  | cons c before ih =>
    rw [List.cons_append, List.cons_append, beforeMarks_cons, beforeMarks_cons]
    split
    · rfl
    cases more : Kind.special.isSlash c with
    | true => rw [place_cons_of_slash more, place_cons_of_slash more, ih]
    | false =>
      rw [place_cons_of_not more, place_cons_of_not more, takeWhile_beforeMarks, takeWhile_beforeMarks]

/-- A service is named by its address, unless that has no more than slashes after the scheme. -/
theorem place_segment (before : List Char) :
    (∃ chars, ∀ segment, place (beforeMarks (before ++ '/' :: segment)) = chars) ∨
      ∀ segment, place (beforeMarks (before ++ '/' :: segment)) = place (beforeMarks segment) := by
  induction before with
  | nil =>
    refine .inr fun segment => ?_
    rw [List.nil_append, beforeMarks_cons, if_neg (by decide), place_cons_of_slash rfl]
  | cons c before ih =>
    simp only [List.cons_append, beforeMarks_cons]
    split
    · exact .inl ⟨_, fun _ => rfl⟩
    cases more : Kind.special.isSlash c with
    | true => simpa only [place_cons_of_slash more] using ih
    | false => exact .inl ⟨_, fun segment => by rw [place_cons_of_not more, takeWhile_beforeMarks]⟩

/-! Texts of addresses -/

/-- Whether a character is left out wherever it stands. -/
def isBreak (c : Char) : Bool := c == '\t' || c == '\n' || c == '\r'

/-- A text with something to see at both its ends loses only tabs and line breaks. -/
theorem significant_ofList {first last : Char} (start : ' ' < first) (stop : ' ' < last) (middle : List Char) :
    significant (String.ofList (first :: (middle ++ [last]))) = (first :: (middle ++ [last])).filter (!isBreak ·) := by
  have starts : ¬decide (first ≤ ' ') = true := by simpa using start
  have stops : ¬decide (last ≤ ' ') = true := by simpa using stop
  have reversed : (first :: (middle ++ [last])).reverse = last :: (first :: middle).reverse := by simp
  have kept : (fun c => c != '\t' && c != '\n' && c != '\r') = (!isBreak ·) := by
    funext c
    simp only [isBreak, Bool.not_or, bne]
  simp only [significant, String.toList_ofList, kept]
  rw [List.dropWhile_cons, if_neg starts, reversed, List.dropWhile_cons, if_neg stops, ← reversed, List.reverse_reverse]

private theorem not_isBreak {c : Char} (shown : ' ' < c) : isBreak c = false := by
  simp only [isBreak, Bool.or_eq_false_iff, beq_eq_false_iff_ne]
  refine ⟨⟨?_, ?_⟩, ?_⟩ <;> rintro rfl <;> exact absurd shown (by decide)

theorem isAlphanum_gt_space {c : Char} (plain : c.isAlphanum = true) : ' ' < c := by
  by_contra low
  have small : c.toNat < 33 := Nat.lt_succ_of_le (Nat.le_of_not_lt low)
  have blank := Naming.forall_of_codes (·.isAlphanum = false) 33 (by decide) c small
  exact Bool.false_ne_true (blank.symm.trans plain)

theorem significant_below {base path scheme : String} (web : scheme = "http" ∨ scheme = "https") {after : List Char}
    (shape : base.toList = scheme.toList ++ ':' :: after) (filled : path ≠ "") (shown : ∀ c ∈ path.toList, ' ' < c) :
    significant (base ++ "/" ++ path) = scheme.toList ++ ':' :: (after.filter (!isBreak ·) ++ '/' :: path.toList) := by
  obtain ⟨front, last, ending⟩ := (List.eq_nil_or_concat' path.toList).resolve_left (by simpa using filled)
  have visible : path.toList.filter (!isBreak ·) = path.toList :=
    List.filter_eq_self.mpr fun c member => by simp [not_isBreak (shown c member)]
  obtain ⟨middle, spelled, solid⟩ : ∃ middle, scheme.toList = 'h' :: middle ∧ scheme.toList.filter (!isBreak ·) = scheme.toList := by
    rcases web with rfl | rfl
    · exact ⟨"ttp".toList, rfl, rfl⟩
    · exact ⟨"ttps".toList, rfl, rfl⟩
  have written : base ++ "/" ++ path =
      String.ofList ('h' :: ((middle ++ ':' :: (after ++ '/' :: front)) ++ [last])) := by
    apply String.toList_injective
    simp [shape, spelled, ending]
  rw [written, significant_ofList (by decide) (shown last (by simp [ending]))]
  have whole : 'h' :: ((middle ++ ':' :: (after ++ '/' :: front)) ++ [last]) = scheme.toList ++ ':' :: (after ++ '/' :: path.toList) := by
    simp [spelled, ending]
  have colon : (!isBreak ':') = true := rfl
  have slash : (!isBreak '/') = true := rfl
  rw [whole, List.filter_append, solid, List.filter_cons, if_pos colon, List.filter_append, List.filter_cons, if_pos slash, visible]

/-- An address on the web can be read if its place can be. -/
theorem read_alike {text scheme : String} (web : scheme = "http" ∨ scheme = "https") {rest : List Char}
    (shape : significant text = scheme.toList ++ ':' :: rest) :
    FailAlike (read text) (readAuthority scheme .special (place (beforeMarks rest))) := by
  have cut : readScheme? (scheme.toList ++ ':' :: rest) = some (scheme, rest) := by
    rcases web with rfl | rfl <;> rfl
  have special : kindOf scheme = .special := by rcases web with rfl | rfl <;> rfl
  rw [read, shape, cut]
  simp only [special]
  exact (FailAlike.bind_ok _ _).trans (readPlace_alike scheme _)

/-- Of a path below an address, the first part alone decides whether it can be read. -/
theorem read_below {base scheme segment rest : String} (web : scheme = "http" ∨ scheme = "https") {after : List Char}
    (shape : base.toList = scheme.toList ++ ':' :: after) (filled : segment ≠ "")
    (plain : ∀ c ∈ segment.toList, c.isAlphanum = true) (shown : ∀ c ∈ rest.toList, ' ' < c) :
    FailAlike (read (base ++ "/" ++ (segment ++ "/" ++ rest))) (read (base ++ "/" ++ segment)) := by
  have letters : ∀ c ∈ segment.toList, ' ' < c := fun c member => isAlphanum_gt_space (plain c member)
  have longer : ∀ c ∈ (segment ++ "/" ++ rest).toList, ' ' < c := by
    simp only [String.toList_append, List.mem_append]
    rintro c ((member | slash) | member)
    · exact letters c member
    · obtain rfl := List.mem_singleton.mp slash
      decide
    · exact shown c member
  have long : segment ++ "/" ++ rest ≠ "" := by simp
  have same := place_beforeMarks (after.filter (!isBreak ·)) rest.toList (by simpa using filled) plain
  have whole := read_alike web (significant_below web shape long longer)
  rw [String.toList_append, String.toList_append, List.append_assoc] at whole
  exact whole.trans (same ▸ (read_alike web (significant_below web shape filled letters)).symm)

/-- Documents and pictures are served at the same place, and where it takes its name from the
path either name will do. -/
theorem read_files_alike {base scheme : String} (web : scheme = "http" ∨ scheme = "https") {after : List Char}
    (shape : base.toList = scheme.toList ++ ':' :: after) : FailAlike (read (base ++ "/" ++ "files")) (read (base ++ "/" ++ "images")) := by
  have files : significant (base ++ "/" ++ "files") = _ := significant_below web shape (by decide) (by decide)
  have images : significant (base ++ "/" ++ "images") = _ := significant_below web shape (by decide) (by decide)
  refine (read_alike web files).trans (FailAlike.trans ?_ (read_alike web images).symm)
  rcases place_segment (after.filter (!isBreak ·)) with ⟨chars, same⟩ | named
  · rw [same, same]
    exact .refl _
  · rw [named, named]
    rcases web with rfl | rfl <;> exact .ok _ _

end Url

end Handoff
