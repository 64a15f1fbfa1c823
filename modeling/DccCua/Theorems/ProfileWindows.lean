import DccCua.Theorems.ProfileLookup

/-! # What a window title can satisfy

A title constraint rejects the empty title unless one of its aliases is blank, since a blank alias is contained in every
title. A version is found in a title exactly when it is made of the characters that tokens are made of. -/

namespace DccCua

open Checks

/-! ### Blank texts -/

def Blank (text : String) : Prop := ∀ c ∈ text.toList, Text.isWhitespace c = true

theorem dropWhile_eq_nil {α : Type} {p : α → Bool} : ∀ {l : List α}, l.dropWhile p = [] ↔ ∀ a ∈ l, p a = true
  | [] => by simp
  | a :: l => by
    by_cases ha : p a = true
    · simp [ha, dropWhile_eq_nil (l := l)]
    · simp [ha]

/-- What `str::trim` leaves nothing of. -/
theorem trim_eq_empty {text : String} : Text.trim text = "" ↔ Blank text := by
  have hempty : Text.trim text = "" ↔ ((text.toList.dropWhile Text.isWhitespace).reverse.dropWhile Text.isWhitespace) = [] := by
    rw [Text.trim, ← String.toList_eq_nil_iff, String.toList_ofList, List.reverse_eq_nil_iff]
  rw [hempty, dropWhile_eq_nil]
  constructor
  · intro hback
    by_contra hblank
    obtain ⟨c, rest, hrest⟩ := List.exists_cons_of_ne_nil fun hnil => hblank (dropWhile_eq_nil.mp hnil)
    have hfirst := List.head?_dropWhile_not Text.isWhitespace text.toList
    rw [hrest] at hfirst hback
    have hc := hback c (by simp)
    simp [hc] at hfirst
  · intro hblank
    rw [dropWhile_eq_nil.mpr hblank]
    simp

theorem splitOnP_all_nil {α : Type} {p : α → Bool} : ∀ {l : List α}, (∀ part ∈ l.splitOnP p, part = []) ↔ ∀ a ∈ l, p a = true
  | [] => by simp [List.splitOnP_nil]
  | a :: l => by
    have ih := splitOnP_all_nil (p := p) (l := l)
    rw [List.splitOnP_cons_eq_if_modifyHead]
    split
    · rename_i ha
      simp [ha, ih]
    · rename_i ha
      obtain ⟨part, parts, hparts⟩ := List.exists_cons_of_ne_nil (List.splitOnP_ne_nil p l)
      simp [hparts, ha]

theorem splitWhitespace_eq_nil {text : String} : splitWhitespace text = [] ↔ Blank text := by
  rw [splitWhitespace, Text.split, List.filter_eq_nil_iff, Blank, ← splitOnP_all_nil, List.forall_mem_map]
  refine forall₂_congr fun part _ => ?_
  rw [decide_eq_true_iff, not_not, ← String.toList_eq_nil_iff, String.toList_ofList]

theorem intercalate_words_ne {separator word : String} {words : List String} (h : word ≠ "") :
    separator.intercalate (word :: words) ≠ "" := by
  intro hempty
  rw [← String.toList_eq_nil_iff, String.toList_intercalate] at hempty
  cases words with
  | nil => simp [List.intercalate] at hempty; exact h hempty
  | cons next rest => simp [List.intercalate] at hempty; exact h hempty.1

/-- The words of a text that is not blank are not empty. -/
theorem normalizeText_eq_empty {lowercase : Lowercase} (hkeeps : ∀ text, lowercase.apply text = "" → text = "") {text : String} :
    normalizeText lowercase text = "" ↔ Blank text := by
  rw [← splitWhitespace_eq_nil]
  constructor
  · intro hempty
    have hjoined := hkeeps _ hempty
    cases hwords : splitWhitespace text with
    | nil => rfl
    | cons word words =>
      have hword : word ∈ splitWhitespace text := by rw [hwords]; exact List.mem_cons_self
      rw [hwords] at hjoined
      rw [splitWhitespace, List.mem_filter, decide_eq_true_iff] at hword
      exact absurd hjoined (intercalate_words_ne hword.2)
  · intro hnil
    rw [normalizeText, hnil, lowercase.ascii] <;> simp [Text.toAsciiLowercase]

/-! ### Titles -/

section Titles
variable {lowercase : Lowercase} {selector : ProfileSelector}

/-- A title that the selector rejects, whatever the application is. -/
def ProfileSelector.Rejects (lowercase : Lowercase) (selector : ProfileSelector) : Prop :=
  ∃ title, ∀ applicationName, selector.matchesWindow lowercase applicationName title = false

theorem hasTitles_of_mem {value : String} (h : value ∈ selector.titles) : selector.hasTitles = true := by
  rw [ProfileSelector.titles, List.mem_append, List.mem_flatMap] at h
  rw [ProfileSelector.hasTitles, Bool.or_eq_true, List.any_eq_true]
  rcases h with hplain | ⟨entry, hentry, hvalue⟩
  · exact Or.inl (by simpa using List.ne_nil_of_mem hplain)
  · exact Or.inr ⟨entry, hentry, by simpa using List.ne_nil_of_mem hvalue⟩

theorem exists_title_of_hasTitles (h : selector.hasTitles = true) : ∃ value, value ∈ selector.titles := by
  rw [ProfileSelector.hasTitles, Bool.or_eq_true, List.any_eq_true] at h
  simp only [ProfileSelector.titles, List.mem_append, List.mem_flatMap]
  rcases h with hplain | ⟨entry, hentry, haliases⟩
  · obtain ⟨value, hvalue⟩ := List.exists_mem_of_ne_nil _ (show selector.windowTitleContains ≠ [] by simpa using hplain)
    exact ⟨value, Or.inl hvalue⟩
  · obtain ⟨value, hvalue⟩ := List.exists_mem_of_ne_nil _ (show entry.2 ≠ [] by simpa using haliases)
    exact ⟨value, Or.inr ⟨entry, hentry, hvalue⟩⟩

/-- A blank alias is contained in every title. -/
theorem matchesWindow_of_blank (hkeeps : ∀ text, lowercase.apply text = "" → text = "") {value : String}
    (hvalue : value ∈ selector.titles) (hblank : Blank value) (title : String) :
    ∃ applicationName, selector.matchesWindow lowercase applicationName title = true := by
  have htitle : selector.titles.any (fun value => containsText (normalizeText lowercase title) (normalizeText lowercase value)) = true := by
    refine List.any_eq_true.mpr ⟨value, hvalue, ?_⟩
    rw [(normalizeText_eq_empty hkeeps).mpr hblank, containsText, decide_eq_true_iff]
    exact List.nil_infix
  cases hnames : selector.applicationNames with
  | nil => exact ⟨"", by simp [ProfileSelector.matchesWindow, hasTitles_of_mem hvalue, hnames, htitle]⟩
  | cons name names => exact ⟨name, by simp [ProfileSelector.matchesWindow, hasTitles_of_mem hvalue, hnames, htitle]⟩

/-- The empty title contains no text. -/
theorem matchesWindow_empty_title (hkeeps : ∀ text, lowercase.apply text = "" → text = "") (htitles : selector.hasTitles = true)
    (hnone : ∀ value ∈ selector.titles, ¬ Blank value) (applicationName : String) :
    selector.matchesWindow lowercase applicationName "" = false := by
  have htitle : selector.titles.any (fun value => containsText (normalizeText lowercase "") (normalizeText lowercase value)) = false := by
    refine List.any_eq_false.mpr fun value hvalue hcontains => ?_
    rw [(normalizeText_eq_empty hkeeps).mpr (show Blank "" by simp [Blank]), containsText, decide_eq_true_iff] at hcontains
    have hempty := List.eq_nil_of_infix_nil hcontains
    exact hnone value hvalue ((normalizeText_eq_empty hkeeps).mp (String.toList_eq_nil_iff.mp hempty))
  simp [ProfileSelector.matchesWindow, htitles, htitle]

theorem rejects_iff (hkeeps : ∀ text, lowercase.apply text = "" → text = "") (htitles : selector.hasTitles = true) :
    selector.Rejects lowercase ↔ ∀ value ∈ selector.titles, ¬ Blank value := by
  constructor
  · rintro ⟨title, hrejects⟩ value hvalue hblank
    obtain ⟨applicationName, hmatches⟩ := matchesWindow_of_blank hkeeps hvalue hblank title
    rw [hrejects applicationName] at hmatches
    cases hmatches
  · exact fun hnone => ⟨"", matchesWindow_empty_title hkeeps htitles hnone⟩

end Titles

/-! ### Versions -/

theorem isVersionChar_asciiLower (c : Char) : isVersionChar (asciiLower c) = isVersionChar c := by
  by_cases hc : 'A' ≤ c ∧ c ≤ 'Z'
  · have hascii : c.toNat < 128 := Nat.lt_of_le_of_lt (Char.le_def.mp hc.2) (by decide)
    refine ascii_cases (p := fun c => isVersionChar (asciiLower c) = isVersionChar c) ?_ hascii
    decide
  · rw [asciiLower, if_neg hc]

/-- The parts of a text have none of the characters that it is split at. -/
theorem splitOnP_part {α : Type} {p : α → Bool} {part : List α} : ∀ {l : List α}, part ∈ l.splitOnP p → ∀ a ∈ part, p a = false
  | [], h => by simp_all [List.splitOnP_nil]
  | a :: l, h => by
    have ih := @splitOnP_part _ p part l
    rw [List.splitOnP_cons_eq_if_modifyHead] at h
    split at h
    · rcases List.mem_cons.mp h with rfl | hpart
      · simp
      · exact ih hpart
    · rename_i ha
      obtain ⟨first, parts, hparts⟩ := List.exists_cons_of_ne_nil (List.splitOnP_ne_nil p l)
      rw [hparts, List.modifyHead_cons] at h
      rw [hparts] at ih
      rcases List.mem_cons.mp h with rfl | hpart
      · exact List.forall_mem_cons.mpr ⟨by simpa using ha, splitOnP_part (hparts ▸ List.mem_cons_self)⟩
      · exact ih (List.mem_cons_of_mem _ hpart)

theorem eqIgnoreAsciiCase_iff {a b : String} : eqIgnoreAsciiCase a b = true ↔ a.toList.map asciiLower = b.toList.map asciiLower := by
  rw [eqIgnoreAsciiCase, decide_eq_true_iff, ← String.toList_inj, toList_toAsciiLowercase, toList_toAsciiLowercase]

/-- A token has the characters of tokens only, and they stay that in the other case. -/
theorem containsVersionToken_chars {value version : String} (h : containsVersionToken value version = true) :
    ∀ c ∈ version.toList, isVersionChar c = true := by
  rw [containsVersionToken, Text.split, List.any_eq_true] at h
  obtain ⟨token, htoken, hequal⟩ := h
  obtain ⟨part, hpart, rfl⟩ := List.mem_map.mp htoken
  rw [eqIgnoreAsciiCase_iff, String.toList_ofList] at hequal
  intro c hc
  have hlower : asciiLower c ∈ part.map asciiLower := by
    rw [hequal]
    exact List.mem_map_of_mem hc
  obtain ⟨d, hd, hsame⟩ := List.mem_map.mp hlower
  have hplain := splitOnP_part hpart d hd
  rw [← isVersionChar_asciiLower, ← hsame, isVersionChar_asciiLower]
  simpa using hplain

theorem containsVersionToken_self {version : String} (h : ∀ c ∈ version.toList, isVersionChar c = true) :
    containsVersionToken version version = true := by
  have hsplit : version.toList.splitOnP (fun c => !isVersionChar c) = [version.toList] :=
    List.splitOnP_eq_singleton fun c hc => by simp [h c hc]
  rw [containsVersionToken, Text.split, hsplit, List.map_singleton, String.ofList_toList, List.any_cons, Bool.or_eq_true]
  exact Or.inl (eqIgnoreAsciiCase_iff.mpr rfl)

/-- Some title has the version exactly when the version can be a token. -/
theorem exists_title_iff {version : String} :
    (∃ title, containsVersionToken title version = true) ↔ ∀ c ∈ version.toList, isVersionChar c = true :=
  ⟨fun ⟨_, h⟩ => containsVersionToken_chars h, fun h => ⟨version, containsVersionToken_self h⟩⟩

/-- A profile matches no window when none of the versions that it declares can be a token. -/
theorem matchesWindow_unmatchable {lowercase : Lowercase} {profile : SemanticProfile} (hdeclares : profile.application.versions ≠ [])
    (h : ∀ version ∈ profile.application.versions, ∃ c ∈ version.toList, isVersionChar c = false) (applicationName windowTitle : String) :
    profile.matchesWindow lowercase applicationName windowTitle = false := by
  have hversions : ∀ version ∈ profile.application.versions, ∀ value, containsVersionToken value version = false := by
    intro version hversion value
    obtain ⟨c, hc, hother⟩ := h version hversion
    by_contra hcontains
    rw [containsVersionToken_chars (Bool.eq_true_of_not_eq_false hcontains) c hc] at hother
    cases hother
  rw [SemanticProfile.matchesWindow, List.isEmpty_eq_false_iff.mpr hdeclares, Bool.false_or, Bool.and_eq_false_iff]
  refine Or.inr (List.any_eq_false.mpr fun version hversion => ?_)
  simp [hversions version hversion]

/-! ### What validation leaves open -/

theorem checkAll_eq_ok {α : Type} {check : α → Except ProfileError Unit} {u : Unit} :
    ∀ {entries : List α}, checkAll check entries = .ok u ↔ ∀ a ∈ entries, check a = .ok ()
  | [] => by simp [checkAll]
  | a :: rest => by
    have hunit : (∃ x, check a = .ok x) ↔ check a = .ok () := ⟨fun ⟨_, h⟩ => h, fun h => ⟨(), h⟩⟩
    simp only [checkAll, bind_eq_ok, checkAll_eq_ok, exists_and_right, hunit, List.forall_mem_cons]

/-- The localized aliases are checked, and the plain ones are not. -/
theorem localized_of_validate {parsers : ProfileParsers} {profile : SemanticProfile} (h : profile.validate parsers = .ok ())
    {selector : ProfileSelector} (hselector : selector ∈ profile.selectors) :
    ∀ value ∈ selector.localizedWindowTitleContains.flatMap Prod.snd, ¬ Blank value := by
  simp only [SemanticProfile.validate, bind_eq_ok, checkAll_eq_ok] at h
  obtain ⟨-, -, -, -, -, -, -, -, -, -, -, -, -, -, -, -, -, hselectors, -⟩ := h
  intro value hvalue
  obtain ⟨⟨locale, values⟩, hentry, hvalues⟩ := List.mem_flatMap.mp hvalue
  have hchecked := hselectors selector hselector
  rw [validateLocalizedAliases, checkAll_eq_ok] at hchecked
  have haliases := hchecked _ hentry
  simp only [bind_eq_ok, require_eq_ok, Bool.and_eq_true, List.all_eq_true, decide_eq_true_iff] at haliases
  obtain ⟨-, -, -, hnonblank⟩ := haliases
  rw [← trim_eq_empty]
  exact hnonblank value hvalues

/-- Each title constraint rejects a title, and each declared version is found in one. -/
structure SemanticProfile.Discerning (lowercase : Lowercase) (profile : SemanticProfile) : Prop where
  titles : ∀ selector ∈ profile.selectors, selector.hasTitles = true → selector.Rejects lowercase
  versions : ∀ version ∈ profile.application.versions, ∃ title, containsVersionToken title version = true

/-- A validated profile discerns titles exactly when its plain aliases are not blank and its versions can be tokens. -/
theorem discerning_iff (parsers : ProfileParsers) (lowercase : Lowercase) (hkeeps : ∀ text, lowercase.apply text = "" → text = "")
    (profile : SemanticProfile) (hvalid : profile.validate parsers = .ok ()) :
    profile.Discerning lowercase ↔
      (∀ selector ∈ profile.selectors, ∀ value ∈ selector.windowTitleContains, Text.trim value ≠ "") ∧
        ∀ version ∈ profile.application.versions, ∀ c ∈ version.toList, isVersionChar c = true := by
  constructor
  · rintro ⟨htitles, hversions⟩
    refine ⟨fun selector hselector value hvalue => ?_, fun version hversion => exists_title_iff.mp (hversions version hversion)⟩
    have hmem : value ∈ selector.titles := List.mem_append_left _ hvalue
    have hrejects := htitles selector hselector (hasTitles_of_mem hmem)
    rw [ne_eq, trim_eq_empty]
    exact (rejects_iff hkeeps (hasTitles_of_mem hmem)).mp hrejects value hmem
  · rintro ⟨hplain, hversions⟩
    refine ⟨fun selector hselector htitles => ?_, fun version hversion => exists_title_iff.mpr (hversions version hversion)⟩
    refine (rejects_iff hkeeps htitles).mpr fun value hvalue => ?_
    rcases List.mem_append.mp hvalue with hvalue | hvalue
    · rw [← trim_eq_empty]
      exact hplain selector hselector value hvalue
    · exact localized_of_validate hvalid hselector value hvalue

/-! ### A version with a blank in it, and a blank alias -/

def titledProfile (title version : String) : SemanticProfile :=
  { sampleParent with
    application := { family := "autodesk-maya", versions := [version] }
    selectors := [{ windowTitleContains := [title] }] }

theorem asciiLowercase_keeps (text : String) (h : asciiLowercase.apply text = "") : text = "" := by
  rw [← String.toList_eq_nil_iff] at h ⊢
  exact List.map_eq_nil_iff.mp ((toList_toAsciiLowercase text).symm.trans h)

theorem discerning_maya : (titledProfile "Autodesk Maya" "2024").Discerning asciiLowercase :=
  (discerning_iff sampleParsers asciiLowercase asciiLowercase_keeps _ (by decide)).mpr
    ⟨List.forall_mem_singleton.mpr (List.forall_mem_singleton.mpr (by decide)),
      by simp [titledProfile, isVersionChar, isAsciiAlphanumeric]⟩

/-- Every title satisfies the blank alias, and none has the version with a blank in it. -/
theorem undiscerning_profile : ∃ profile : SemanticProfile, profile.validate sampleParsers = .ok () ∧
    (∃ selector ∈ profile.selectors, selector.hasTitles = true ∧ ¬ selector.Rejects asciiLowercase) ∧
    ∃ version ∈ profile.application.versions, ¬ ∃ title, containsVersionToken title version = true := by
  refine ⟨titledProfile " " "2024 SP1", by decide, ⟨_, List.mem_singleton_self _, by decide, fun hrejects => ?_⟩,
    _, List.mem_singleton_self _, fun htitle => ?_⟩
  · exact (rejects_iff asciiLowercase_keeps (by decide)).mp hrejects " " (by decide) (by simp [Blank]; decide)
  · have hplain := exists_title_iff.mp htitle ' ' (by decide)
    cases hplain

end DccCua
