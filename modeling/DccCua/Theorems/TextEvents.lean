import DccCua.Windows.InputEvents

/-! # The events of a text type the text

The presses of the events are decoded: the Return key as a line break, the units between as UTF-16. -/

namespace DccCua
namespace PhysicalInput

open Unicode

/-- What a press or some of them type. -/
inductive Typed where
  | lineBreak
  | character (c : Char)
  deriving DecidableEq, Repr

/-- What is typed by a text, each of whose line ends is one line break. -/
def typed : List Char → List Typed
  | '\r' :: '\n' :: text => .lineBreak :: typed text
  | '\r' :: text => .lineBreak :: typed text
  | '\n' :: text => .lineBreak :: typed text
  | c :: text => .character c :: typed text
  | [] => []

def decodePresses : List Event → Option (List Typed)
  | [] => some []
  | .key key false :: presses => if key = vkReturn then (decodePresses presses).map (Typed.lineBreak :: ·) else none
  | .unicode unit false :: presses =>
    if isHighSurrogate unit then
      match presses with
      | .unicode low false :: presses =>
        if isLowSurrogate low then (decodePresses presses).map (Typed.character (joinSurrogates unit low) :: ·) else none
      | _ => none
    else if isLowSurrogate unit then none
    else (decodePresses presses).map (Typed.character (Char.ofNat unit) :: ·)
  | _ => none

def presses (events : List Event) : List Event := events.filter fun event => event.release.isSome

/-- Each press is followed by its release. -/
def Paired : List Event → Prop
  | [] => True
  | press :: release :: events => press.release = some release ∧ Paired events
  | [_] => False

theorem paired_append : ∀ {as bs : List Event}, Paired as → Paired bs → Paired (as ++ bs)
  | [], _, _, hbs => hbs
  | [_], _, has, _ => has.elim
  | _ :: _ :: _, _, has, hbs => ⟨has.1, paired_append has.2 hbs⟩

theorem presses_append (as bs : List Event) : presses (as ++ bs) = presses as ++ presses bs := List.filter_append ..

section Characters
variable {c : Char}

theorem paired_character : Paired ((encodeUtf16 c).flatMap fun unit => [Event.unicode unit false, Event.unicode unit true]) := by
  unfold encodeUtf16
  split
  · exact ⟨rfl, trivial⟩
  · exact ⟨rfl, rfl, trivial⟩

/-- The presses of a character type it. -/
theorem decode_character (rest : List Event) :
    decodePresses (presses ((encodeUtf16 c).flatMap fun unit => [Event.unicode unit false, Event.unicode unit true]) ++ rest) =
      (decodePresses rest).map (Typed.character c :: ·) := by
  unfold encodeUtf16
  split
  · rename_i hbasic
    obtain ⟨hhigh, hlow⟩ := not_surrogate hbasic
    show decodePresses (.unicode c.toNat false :: rest) = _
    conv_lhs => unfold decodePresses
    rw [hhigh, hlow, Char.ofNat_toNat]
    rfl
  · rename_i hpair
    obtain ⟨hhigh, hlow, hjoin⟩ := joinSurrogates_encode hpair
    show decodePresses (.unicode _ false :: .unicode _ false :: rest) = _
    rw [decodePresses, if_pos hhigh, if_pos hlow, hjoin]

end Characters

theorem typed_of_ne {c : Char} {text : List Char} (hcr : c ≠ '\r') (hlf : c ≠ '\n') :
    typed (c :: text) = .character c :: typed text := by
  rw [typed]
  all_goals simp_all

/-- What is left to type after a carriage return does not begin with its line feed. -/
theorem typed_cr : ∀ text : List Char, typed ('\r' :: text) = .lineBreak :: typed (if text.head? = some '\n' then text.tail else text)
  | [] => rfl
  | c :: text => by
    by_cases h : c = '\n'
    · rw [h]
      rfl
    · rw [typed, if_neg (by simp [h])]
      intro rest heq
      cases heq
      exact h rfl

theorem eventsFrom_cr : ∀ text : List Char, eventsFrom true text = eventsFrom false (if text.head? = some '\n' then text.tail else text)
  | [] => rfl
  | c :: text => by
    by_cases h : c = '\n'
    · rw [h]
      rfl
    · rw [if_neg (by simpa using h)]
      unfold eventsFrom
      rw [if_neg (by simp [h])]
      simp

/-- A line end, once its line feed is skipped. -/
theorem eventsFrom_lineEnd {c : Char} (hc : c = '\r' ∨ c = '\n') (text : List Char) :
    eventsFrom false (c :: text) = [.key vkReturn false, .key vkReturn true] ++ eventsFrom (c = '\r') text := by
  rw [eventsFrom, if_neg (by simp), if_pos hc]

theorem eventsFrom_character {c : Char} (hcr : c ≠ '\r') (hlf : c ≠ '\n') (text : List Char) :
    eventsFrom false (c :: text) =
      (encodeUtf16 c).flatMap (fun unit => [Event.unicode unit false, Event.unicode unit true]) ++ eventsFrom false text := by
  rw [eventsFrom, if_neg (by simp), if_neg (by simp [hcr, hlf]), decide_eq_false hcr]

/-- Events type a text in pairs of a press and its release. -/
structure Types (events : List Event) (text : List Typed) : Prop where
  paired : Paired events
  decoded : decodePresses (presses events) = some text

theorem Types.lineBreak {events : List Event} {text : List Typed} (h : Types events text) :
    Types ([.key vkReturn false, .key vkReturn true] ++ events) (.lineBreak :: text) where
  paired := ⟨rfl, h.paired⟩
  decoded := by
    show decodePresses (.key vkReturn false :: presses events) = _
    rw [decodePresses, if_pos rfl, h.decoded]
    rfl

theorem Types.character {events : List Event} {text : List Typed} (h : Types events text) (c : Char) :
    Types ((encodeUtf16 c).flatMap (fun unit => [Event.unicode unit false, Event.unicode unit true]) ++ events)
      (.character c :: text) where
  paired := paired_append paired_character h.paired
  decoded := by
    rw [presses_append, decode_character, h.decoded]
    rfl

theorem eventsFrom_types (text : List Char) : Types (eventsFrom false text) (typed text) := by
  induction hlength : text.length using Nat.strongRecOn generalizing text with
  | ind n ih =>
    subst hlength
    rcases text with _ | ⟨c, text⟩
    · exact ⟨trivial, rfl⟩
    · by_cases hcr : c = '\r'
      · subst hcr
        rw [eventsFrom_lineEnd (Or.inl rfl), decide_eq_true rfl, eventsFrom_cr, typed_cr]
        refine (ih _ ?_ _ rfl).lineBreak
        split
        · rw [List.length_tail, List.length_cons]
          omega
        · exact Nat.lt_succ_self _
      · by_cases hlf : c = '\n'
        · subst hlf
          rw [eventsFrom_lineEnd (Or.inr rfl), decide_eq_false hcr, typed]
          exact (ih _ (Nat.lt_succ_self _) text rfl).lineBreak
        · rw [eventsFrom_character hcr hlf, typed_of_ne hcr hlf]
          exact (ih _ (Nat.lt_succ_self _) text rfl).character c

/-- The events of a text of allowed length type it, line end for line break; any other text is refused. -/
theorem text_events_exact (text : String) :
    (1 ≤ utf16Length text ∧ utf16Length text ≤ 4096 → ∃ events, textEvents text = .ok events ∧ Paired events ∧
      decodePresses (presses events) = some (typed text.toList)) ∧
    (¬(1 ≤ utf16Length text ∧ utf16Length text ≤ 4096) → textEvents text = .error .invalidRequest) := by
  have hempty : text.isEmpty = true ↔ utf16Length text = 0 := by
    rw [String.isEmpty_iff]
    constructor
    · rintro rfl
      rfl
    · intro hzero
      unfold utf16Length at hzero
      rcases hchars : text.toList with _ | ⟨c, chars⟩
      · exact String.toList_eq_nil_iff.mp hchars
      · rw [hchars, List.map_cons, List.sum_cons] at hzero
        have : 1 ≤ utf16Size c := by
          unfold utf16Size
          split <;> decide
        omega
  unfold textEvents
  constructor
  · rintro ⟨hlow, hhigh⟩
    rw [if_neg]
    · exact ⟨_, rfl, (eventsFrom_types text.toList).paired, (eventsFrom_types text.toList).decoded⟩
    · rw [Bool.or_eq_true, hempty, decide_eq_true_eq]
      omega
  · intro hlength
    rw [if_pos]
    rw [Bool.or_eq_true, hempty, decide_eq_true_eq]
    omega

/-- A carriage return before a line end of two characters, and a pair of surrogates. -/
theorem text_events_exact_sample : ∃ events, textEvents "\r\r\n😀" = .ok events ∧ Paired events ∧
    decodePresses (presses events) = some [.lineBreak, .lineBreak, .character '😀'] :=
  (text_events_exact "\r\r\n😀").1 (by decide)

end PhysicalInput
end DccCua
