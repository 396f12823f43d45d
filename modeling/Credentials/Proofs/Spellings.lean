import Credentials.Naming
import Credentials.Proofs.LetterCase
import Credentials.Text.Pieces
import Mathlib.Data.List.Forall2
import Mathlib.Data.List.Nodup

/-!
# Spellings of roles

A spelling of a role has the words of the role's name, each in any letter case, and between two of
them an underscore, a hyphen, a space or nothing. Where nothing stands, the letter case has to show
the border: a small letter before a capital, a hump. As soon as one border is shown so, every hump
must be such a border.

1. **Characters.** The lower case of the whole of Unicode leads to the letters of the names from
   their own two cases alone (`normalize_eq_iff`).
2. **Separators.** The first reading finds the texts with a separator at every border
   (`map_foldChar_eq_iff`).
3. **Humps.** The second reading puts underscores at the humps, so it finds the texts whose humps
   are the borders without a separator (`splitWords_spelled`, `exists_of_splitWords_eq_spelled`).

Main statement: `spelling_exact`.
-/

namespace Credentials

open Text

/-! ## The grammar of spellings -/

namespace Spelling

/-- What stands between two words. -/
inductive Gap where
  | underscore
  | hyphen
  | space
  | nothing
  deriving DecidableEq, Repr

/-- The characters of a gap. -/
def Gap.chars : Gap → List Char
  | underscore => ['_']
  | hyphen => ['-']
  | space => [' ']
  | nothing => []

/-- A first word, and further words behind gaps, in a row. -/
def spelled (first : List Char) : List (Gap × List Char) → List Char
  | [] => first
  | (gap, word) :: rest => first ++ (gap.chars ++ spelled word rest)

/-- Equal but for the case of ASCII letters. -/
def SameLetters (cs ds : List Char) : Prop := cs.map Char.toLower = ds.map Char.toLower

/-- A small letter right before a capital. -/
def Hump (a b : Char) : Prop := a.isLower = true ∧ b.isUpper = true

/-- No hump inside. -/
def Flat (cs : List Char) : Prop := cs.IsChain fun a b => ¬ Hump a b

/-- A hump where one text ends and the next one starts. -/
def HumpBetween (cs ds : List Char) : Prop :=
  ∃ a b, cs.getLast? = some a ∧ ds.head? = some b ∧ Hump a b

/-- There is a hump at every border where nothing stands, and none inside a word. -/
def HumpsAtBorders (first : List Char) : List (Gap × List Char) → Prop
  | [] => Flat first
  | (gap, word) :: rest =>
    Flat first ∧ (gap = .nothing → HumpBetween first word) ∧ HumpsAtBorders word rest

/-- Some words, found in a text. -/
structure Cut (words : List (List Char)) (cs : List Char) where
  first : List Char
  rest : List (Gap × List Char)
  text : spelled first rest = cs
  letters : List.Forall₂ SameLetters words (first :: rest.map Prod.snd)

/-- A text is a spelling of some words: it can be cut into them, and if anywhere in it nothing stands
between two words, its humps are where nothing stands. -/
def Spells (words : List (List Char)) (cs : List Char) : Prop :=
  ∃ c : Cut words cs, (∃ w ∈ c.rest, w.1 = .nothing) → HumpsAtBorders c.first c.rest

end Spelling

/-- The words of a role's name. -/
def Role.words (r : Role) : List (List Char) := pieces '_' r.name.toList

namespace Spelling

/-! ## Characters -/

/-- The lower case of ASCII, with hyphens and spaces as underscores. -/
def foldChar (c : Char) : Char := Role.unifySeparator c.toLower

/-- A character that a name may hold. -/
def IsNameChar (c : Char) : Prop := IsAscii c ∧ c ≠ 'k'

instance : DecidablePred IsNameChar :=
  fun c => inferInstanceAs (Decidable (IsAscii c ∧ c ≠ 'k'))

theorem normalize_of_ascii {cs : List Char} (h : ∀ c ∈ cs, IsAscii c) :
    Role.normalize cs = cs.map foldChar := by
  have hlower : cs.flatMap lowerChar = cs.map Char.toLower := by
    rw [List.map_eq_flatMap, List.flatMap_def, List.flatMap_def,
      List.map_congr_left fun c hc => lowerChar_of_ascii (h c hc)]
  rw [Role.normalize, hlower, List.map_map]
  rfl

/-- What comes from outside ASCII is no separator. -/
theorem unifySeparator_of_not_ascii {d : Char} (h : ¬ IsAscii d ∨ d = 'k') :
    Role.unifySeparator d = d := by
  refine if_neg ?_
  rintro (rfl | rfl) <;> exact absurd h (by decide)

/-- What is not ASCII leaves a character behind that no name holds. -/
theorem isAscii_of_normalize {cs : List Char} (h : ∀ d ∈ Role.normalize cs, IsNameChar d) :
    ∀ c ∈ cs, IsAscii c := by
  intro c hc
  refine Classical.byContradiction fun hn => ?_
  obtain ⟨d, hd, hk⟩ := lowerChar_of_not_ascii hn
  have hm : Role.unifySeparator d ∈ Role.normalize cs :=
    List.mem_map.mpr ⟨d, List.mem_flatMap.mpr ⟨c, hc, hd⟩, rfl⟩
  rw [unifySeparator_of_not_ascii hk] at hm
  obtain ⟨hascii, hne⟩ := h d hm
  exact hk.elim (fun hn => hn hascii) hne

/-- Only capitals of ASCII have another lower case in ASCII. -/
theorem toLower_of_not_ascii {c : Char} (h : ¬ IsAscii c) : c.toLower = c := by
  refine dif_neg fun ⟨_, hz⟩ => h ?_
  exact Nat.lt_of_le_of_lt (UInt32.le_iff_toNat_le.mp hz) (by decide)

theorem isAscii_of_foldChar {c : Char} (h : IsAscii (foldChar c)) : IsAscii c := by
  refine Classical.byContradiction fun hn => ?_
  rw [foldChar, toLower_of_not_ascii hn, unifySeparator_of_not_ascii (.inl hn)] at h
  exact hn h

/-- **The lower case of Unicode leads to a name where that of ASCII does, and nowhere else.** -/
theorem normalize_eq_iff {cs target : List Char} (h : ∀ d ∈ target, IsNameChar d) :
    Role.normalize cs = target ↔ cs.map foldChar = target := by
  constructor
  · rintro rfl
    exact (normalize_of_ascii (isAscii_of_normalize h)).symm
  · rintro rfl
    exact normalize_of_ascii fun c hc =>
      isAscii_of_foldChar (h _ (List.mem_map_of_mem hc)).1

/-! ## Words -/

/-- A word: letters of ASCII, and at least one. -/
def IsWord (cs : List Char) : Prop := cs ≠ [] ∧ ∀ c ∈ cs, c.isAlpha = true

/-- A word in small letters. -/
def IsSmall (w : List Char) : Prop := w ≠ [] ∧ ∀ c ∈ w, c.isLower = true

-- the characters of the word are tried, not all characters
instance (w : List Char) : Decidable (IsSmall w) :=
  have : Decidable (∀ c ∈ w, c.isLower = true) := List.decidableBAll _ w
  inferInstanceAs (Decidable (w ≠ [] ∧ ∀ c ∈ w, c.isLower = true))

theorem isAscii_of_isAlpha {c : Char} (h : c.isAlpha = true) : IsAscii c := by
  have hz : c.val ≤ 'z'.val := by
    rcases Bool.or_eq_true_iff.mp h with h | h
    · have hrange : 'A'.val ≤ c.val ∧ c.val ≤ 'Z'.val := of_decide_eq_true h
      exact UInt32.le_trans hrange.2 (by decide)
    · exact of_decide_eq_true (Bool.and_eq_true_iff.mp h).2
  exact Nat.lt_of_le_of_lt (UInt32.le_iff_toNat_le.mp hz) (by decide)

theorem isAlpha_of_isLower {c : Char} (h : c.isLower = true) : c.isAlpha = true :=
  Bool.or_eq_true_iff.mpr (.inr h)

/-- A letter is folded to its lower case, and counts as small or digit only if it is small. -/
theorem foldChar_of_isAlpha {c : Char} (h : c.isAlpha = true) :
    foldChar c = c.toLower ∧ Role.isLowOrDigit c = c.isLower :=
  forall_isAscii (P := fun c => c.isAlpha = true →
    foldChar c = c.toLower ∧ Role.isLowOrDigit c = c.isLower)
    (by decide +kernel) c (isAscii_of_isAlpha h) h

theorem toLower_of_isLower {c : Char} (h : c.isLower = true) : c.toLower = c :=
  forall_isAscii (P := fun c => c.isLower = true → c.toLower = c) (by decide +kernel) c
    (isAscii_of_isAlpha (isAlpha_of_isLower h)) h

/-- Only a letter is folded to a small letter. -/
theorem isAlpha_of_foldChar {c : Char} (h : (foldChar c).isLower = true) : c.isAlpha = true := by
  have hc : IsAscii c := isAscii_of_foldChar (isAscii_of_isAlpha (isAlpha_of_isLower h))
  exact forall_isAscii (P := fun c => (foldChar c).isLower = true → c.isAlpha = true)
    (by decide +kernel) c hc h

/-- Only a letter has a small letter for its lower case. -/
theorem isAlpha_of_toLower {c : Char} (h : c.toLower.isLower = true) : c.isAlpha = true := by
  have hfold : foldChar c = c.toLower := by
    refine if_neg ?_
    rintro (he | he) <;> exact absurd (he ▸ h) (by decide)
  exact isAlpha_of_foldChar (hfold ▸ h)

section Letters

variable {w cs : List Char} (hw : IsSmall w)
include hw

/-- A small word in any letter case is what the word is the lower case of. -/
theorem sameLetters_iff : SameLetters w cs ↔ cs.map Char.toLower = w := by
  have hid : w.map Char.toLower = w :=
    (List.map_congr_left fun c hc => toLower_of_isLower (hw.2 c hc)).trans (List.map_id w)
  rw [SameLetters, hid, eq_comm]

theorem isWord_of_sameLetters (h : SameLetters w cs) : IsWord cs := by
  have hlower := (sameLetters_iff hw).mp h
  refine ⟨fun hnil => hw.1 ?_, fun c hc => isAlpha_of_toLower (hw.2 _ ?_)⟩
  · rw [← hlower, hnil, List.map_nil]
  · rw [← hlower]
    exact List.mem_map_of_mem hc

/-- Folding finds a small word in any letter case. -/
theorem sameLetters_iff_foldChar : SameLetters w cs ↔ cs.map foldChar = w := by
  have hfold (h : ∀ c ∈ cs, c.isAlpha = true) : cs.map foldChar = cs.map Char.toLower :=
    List.map_congr_left fun c hc => (foldChar_of_isAlpha (h c hc)).1
  rw [sameLetters_iff hw]
  constructor
  · intro h
    exact (hfold (isWord_of_sameLetters hw ((sameLetters_iff hw).mpr h)).2).trans h
  · intro h
    refine (hfold fun c hc => isAlpha_of_foldChar (hw.2 _ ?_)).symm.trans h
    rw [← h]
    exact List.mem_map_of_mem hc

end Letters

/-- Some texts have the letters of some small words if folding finds these in them. -/
theorem forall₂_sameLetters_iff {ws xs : List (List Char)} (hws : ∀ w ∈ ws, IsSmall w) :
    List.Forall₂ SameLetters ws xs ↔ xs.map (List.map foldChar) = ws := by
  induction ws generalizing xs with
  | nil => rw [List.forall₂_nil_left_iff, List.map_eq_nil_iff]
  | cons w ws ih =>
    obtain ⟨hw, hws⟩ := List.forall_mem_cons.mp hws
    cases xs with
    | nil => simp
    | cons x xs =>
      rw [List.forall₂_cons, List.map_cons, List.cons.injEq, sameLetters_iff_foldChar hw, ih hws]

namespace Cut

variable {ws : List (List Char)} {cs : List Char} (hws : ∀ w ∈ ws, IsSmall w) (c : Cut ws cs)
include hws

/-- Folding finds the words of a cut. -/
theorem map_foldChar : (c.first :: c.rest.map Prod.snd).map (List.map foldChar) = ws :=
  (forall₂_sameLetters_iff hws).mp c.letters

/-- The words of a cut are words. -/
theorem isWord : ∀ x ∈ c.first :: c.rest.map Prod.snd, IsWord x := by
  intro x hx
  have hsmall : IsSmall (x.map foldChar) := by
    refine hws _ ?_
    rw [← c.map_foldChar hws]
    exact List.mem_map_of_mem hx
  exact isWord_of_sameLetters hsmall ((sameLetters_iff_foldChar hsmall).mpr rfl)

end Cut

/-! ## Separators -/

theorem exists_gap_of_foldChar {c : Char} (h : foldChar c = '_') :
    ∃ gap : Gap, gap ≠ .nothing ∧ gap.chars = [c] := by
  have hc : IsAscii c := isAscii_of_foldChar (h ▸ by decide)
  have hseparator : c = '_' ∨ c = '-' ∨ c = ' ' :=
    forall_isAscii (P := fun c => foldChar c = '_' → c = '_' ∨ c = '-' ∨ c = ' ')
      (by decide +kernel) c hc h
  rcases hseparator with rfl | rfl | rfl
  · exact ⟨.underscore, by decide, rfl⟩
  · exact ⟨.hyphen, by decide, rfl⟩
  · exact ⟨.space, by decide, rfl⟩

/-- A gap that is not empty is one separator. -/
theorem Gap.exists_of_ne_nothing {gap : Gap} (h : gap ≠ .nothing) :
    ∃ d, gap.chars = [d] ∧ foldChar d = '_' ∧ Role.isLowOrDigit d = false ∧ d.isUpper = false := by
  cases gap with
  | underscore => exact ⟨'_', rfl, by decide⟩
  | hyphen => exact ⟨'-', rfl, by decide⟩
  | space => exact ⟨' ', rfl, by decide⟩
  | nothing => exact absurd rfl h

/-- A separator stands at every border. -/
def AllSeparated (rest : List (Gap × List Char)) : Prop := ∀ g ∈ rest, g.1 ≠ .nothing

/-- Words behind separators are folded to words behind underscores. -/
theorem map_foldChar_spelled (first : List Char) {rest : List (Gap × List Char)}
    (h : AllSeparated rest) :
    (spelled first rest).map foldChar
      = join '_' ((first :: rest.map Prod.snd).map (List.map foldChar)) := by
  induction rest generalizing first with
  | nil => rfl
  | cons g rest ih =>
    obtain ⟨gap, word⟩ := g
    obtain ⟨d, hd, hfold, -⟩ := Gap.exists_of_ne_nothing (h _ List.mem_cons_self)
    rw [spelled, hd, List.map_append, List.singleton_append, List.map_cons, hfold,
      ih word fun g hg => h g (List.mem_cons_of_mem _ hg)]
    rfl

/-- **Folding finds the texts that are cut at separators.** -/
theorem map_foldChar_eq_iff {ws : List (List Char)} {cs : List Char} (hne : ws ≠ [])
    (hws : ∀ w ∈ ws, IsSmall w) :
    cs.map foldChar = join '_' ws ↔ ∃ c : Cut ws cs, AllSeparated c.rest := by
  constructor
  · intro h
    induction ws generalizing cs with
    | nil => exact absurd rfl hne
    | cons w ws ih =>
      have hw := hws w List.mem_cons_self
      cases ws with
      | nil =>
        have hsame : SameLetters w cs := (sameLetters_iff_foldChar hw).mpr h
        exact ⟨⟨cs, [], rfl, .cons hsame .nil⟩, fun g hg => absurd hg List.not_mem_nil⟩
      | cons w' ws =>
        obtain ⟨first, cs', rfl, hfirst, hcs'⟩ := List.map_eq_append_iff.mp h
        obtain ⟨d, cs'', rfl, hd, hcs''⟩ := List.map_eq_cons_iff.mp hcs'
        obtain ⟨gap, hgap, hchars⟩ := exists_gap_of_foldChar hd
        obtain ⟨c, hc⟩ := ih (List.cons_ne_nil _ _)
          (fun w hw => hws w (List.mem_cons_of_mem _ hw)) hcs''
        have hsame : SameLetters w first := (sameLetters_iff_foldChar hw).mpr hfirst
        refine ⟨⟨first, (gap, c.first) :: c.rest, ?_, .cons hsame c.letters⟩,
          List.forall_mem_cons.mpr ⟨hgap, hc⟩⟩
        rw [spelled, c.text, hchars, List.singleton_append]
  · rintro ⟨c, hc⟩
    rw [← c.text, map_foldChar_spelled _ hc, c.map_foldChar hws]

/-! ## Humps -/

instance (a b : Char) : Decidable (Hump a b) :=
  inferInstanceAs (Decidable (a.isLower = true ∧ b.isUpper = true))

theorem splitWords_cons_cons (a b : Char) (cs : List Char) :
    Role.splitWords (a :: b :: cs)
      = if Role.isLowOrDigit a && b.isUpper then a :: '_' :: Role.splitWords (b :: cs)
        else a :: Role.splitWords (b :: cs) := rfl

theorem splitWords_cons_of_not_low {a : Char} (h : Role.isLowOrDigit a = false) (cs : List Char) :
    Role.splitWords (a :: cs) = a :: Role.splitWords cs := by
  cases cs with
  | nil => rfl
  | cons b cs => rw [splitWords_cons_cons, h]; rfl

/-- Behind a letter, an underscore is put at a hump. -/
theorem splitWords_letter_cons {a : Char} (ha : a.isAlpha = true) (b : Char) (cs : List Char) :
    Role.splitWords (a :: b :: cs)
      = if Hump a b then a :: '_' :: Role.splitWords (b :: cs)
        else a :: Role.splitWords (b :: cs) := by
  rw [splitWords_cons_cons, (foldChar_of_isAlpha ha).2]
  exact if_congr Bool.and_eq_true_iff rfl rfl

theorem IsWord.of_cons {a b : Char} {cs : List Char} (h : IsWord (a :: b :: cs)) :
    a.isAlpha = true ∧ IsWord (b :: cs) :=
  ⟨h.2 a List.mem_cons_self, List.cons_ne_nil _ _, fun c hc => h.2 c (List.mem_cons_of_mem _ hc)⟩

/-- What comes behind a word without humps: an underscore if there is a hump, and the rest. -/
theorem splitWords_append {word : List Char} (hw : IsWord word) (hflat : Flat word)
    (cs : List Char) :
    (HumpBetween word cs ∧ Role.splitWords (word ++ cs) = word ++ '_' :: Role.splitWords cs)
      ∨ (¬ HumpBetween word cs ∧ Role.splitWords (word ++ cs) = word ++ Role.splitWords cs) := by
  induction word with
  | nil => exact absurd rfl hw.1
  | cons a word ih =>
    cases word with
    | nil =>
      cases cs with
      | nil => exact .inr ⟨fun ⟨_, _, _, hb, _⟩ => (nomatch hb), rfl⟩
      | cons b cs =>
        have hsplit := splitWords_letter_cons (hw.2 a List.mem_cons_self) b cs
        by_cases hump : Hump a b
        · exact .inl ⟨⟨a, b, rfl, rfl, hump⟩, hsplit.trans (if_pos hump)⟩
        · refine .inr ⟨?_, hsplit.trans (if_neg hump)⟩
          rintro ⟨_, _, ⟨⟩, ⟨⟩, h⟩
          exact hump h
    | cons a' word =>
      obtain ⟨ha, hword⟩ := hw.of_cons
      obtain ⟨hno, hrest⟩ := List.isChain_cons_cons.mp hflat
      have hsplit : Role.splitWords (a :: a' :: word ++ cs)
          = a :: Role.splitWords (a' :: word ++ cs) :=
        (splitWords_letter_cons ha a' (word ++ cs)).trans (if_neg hno)
      rw [hsplit]
      exact (ih hword hrest).imp (And.imp_right (congrArg (a :: ·)))
        (And.imp_right (congrArg (a :: ·)))

theorem head?_splitWords (cs : List Char) : (Role.splitWords cs).head? = cs.head? := by
  cases cs with
  | nil => rfl
  | cons a cs =>
    cases cs with
    | nil => rfl
    | cons b cs =>
      rw [splitWords_cons_cons]
      split <;> rfl

/-- A word at the start of what comes out was there before, without humps. -/
theorem flat_of_splitWords_eq_append {word cs ds : List Char} (hw : IsWord word)
    (h : Role.splitWords cs = word ++ ds) : Flat word ∧ ∃ cs', cs = word ++ cs' := by
  induction word generalizing cs with
  | nil => exact absurd rfl hw.1
  | cons a word ih =>
    obtain ⟨cs, rfl⟩ : ∃ cs', cs = a :: cs' :=
      List.head?_eq_some_iff.mp (by rw [← head?_splitWords, h]; rfl)
    cases word with
    | nil => exact ⟨List.IsChain.singleton a, cs, rfl⟩
    | cons a' word =>
      obtain ⟨ha, hword⟩ := hw.of_cons
      cases cs with
      | nil => exact absurd h (by simp [Role.splitWords])
      | cons b cs =>
        rw [splitWords_letter_cons ha] at h
        split at h
        · -- at a hump an underscore comes out, which is no letter
          obtain ⟨rfl, -⟩ := List.cons.inj (List.cons.inj h).2
          exact absurd (hword.2 '_' List.mem_cons_self) (by decide)
        · next hno =>
          obtain ⟨hflat, cs', hcs'⟩ := ih hword (List.cons.inj h).2
          obtain ⟨rfl, rfl⟩ := List.cons.inj hcs'
          exact ⟨List.isChain_cons_cons.mpr ⟨hno, hflat⟩, cs', rfl⟩

/-- What comes out behind a word is what was behind it, or at a hump an underscore before that. -/
theorem exists_of_splitWords_eq_append {word cs ds : List Char} (hw : IsWord word)
    (h : Role.splitWords cs = word ++ ds) :
    Flat word ∧ ∃ cs', cs = word ++ cs' ∧
      (HumpBetween word cs' ∧ ds = '_' :: Role.splitWords cs' ∨ ds = Role.splitWords cs') := by
  obtain ⟨hflat, cs', rfl⟩ := flat_of_splitWords_eq_append hw h
  refine ⟨hflat, cs', rfl, ?_⟩
  obtain ⟨hump, hsplit⟩ | ⟨-, hsplit⟩ := splitWords_append hw hflat cs'
  · exact .inl ⟨hump, List.append_cancel_left (h.symm.trans hsplit)⟩
  · exact .inr (List.append_cancel_left (h.symm.trans hsplit))

theorem splitWords_eq_nil {cs : List Char} (h : Role.splitWords cs = []) : cs = [] := by
  rw [← List.head?_eq_none_iff, ← head?_splitWords, h, List.head?_nil]

/-- An underscore for nothing. -/
def fill (g : Gap × List Char) : Gap × List Char :=
  (if g.1 = .nothing then .underscore else g.1, g.2)

theorem allSeparated_map_fill (rest : List (Gap × List Char)) : AllSeparated (rest.map fill) := by
  refine List.forall_mem_map.mpr fun g _ => ?_
  unfold fill
  dsimp only
  split <;> [decide; assumption]

theorem map_snd_map_fill (rest : List (Gap × List Char)) :
    (rest.map fill).map Prod.snd = rest.map Prod.snd := by
  rw [List.map_map]
  rfl

/-- A row starts as its first word does. -/
theorem head?_spelled {first : List Char} (h : first ≠ []) (rest : List (Gap × List Char)) :
    (spelled first rest).head? = first.head? := by
  cases rest with
  | nil => rfl
  | cons g rest => exact List.head?_append_of_ne_nil _ h

theorem humpBetween_spelled {word first : List Char} (h : first ≠ [])
    (rest : List (Gap × List Char)) :
    HumpBetween word (spelled first rest) ↔ HumpBetween word first := by
  rw [HumpBetween, head?_spelled h, HumpBetween]

/-- Where a separator starts there is no hump, and it comes out as it is. -/
theorem splitWords_append_gap {word : List Char} (hw : IsWord word) (hflat : Flat word) {gap : Gap}
    (hgap : gap ≠ .nothing) (cs : List Char) :
    Role.splitWords (word ++ (gap.chars ++ cs)) = word ++ (gap.chars ++ Role.splitWords cs) := by
  obtain ⟨d, hd, -, hlow, hupper⟩ := Gap.exists_of_ne_nothing hgap
  rw [hd, List.singleton_append, List.singleton_append]
  obtain ⟨⟨_, _, _, hhead, hump⟩, -⟩ | ⟨-, hsplit⟩ := splitWords_append hw hflat (d :: cs)
  · obtain rfl := Option.some.inj hhead
    exact absurd hump.2 (by simp [hupper])
  · rw [hsplit, splitWords_cons_of_not_low hlow]

/-- **Where the humps are the borders without a separator, underscores come out there.** -/
theorem splitWords_spelled {first : List Char} {rest : List (Gap × List Char)}
    (hw : ∀ x ∈ first :: rest.map Prod.snd, IsWord x) (h : HumpsAtBorders first rest) :
    Role.splitWords (spelled first rest) = spelled first (rest.map fill) := by
  induction rest generalizing first with
  | nil =>
    obtain ⟨⟨_, _, _, hhead, _⟩, -⟩ | ⟨-, hsplit⟩ :=
      splitWords_append (hw first List.mem_cons_self) h []
    · cases hhead
    · simpa [Role.splitWords, spelled] using hsplit
  | cons g rest ih =>
    obtain ⟨gap, word⟩ := g
    obtain ⟨hflat, hump, hrest⟩ := h
    obtain ⟨hfirst, hw⟩ := List.forall_mem_cons.mp hw
    have hword : IsWord word := hw word List.mem_cons_self
    by_cases hgap : gap = .nothing
    · subst hgap
      have hump : HumpBetween first (spelled word rest) :=
        (humpBetween_spelled hword.1 rest).mpr (hump rfl)
      obtain ⟨-, hsplit⟩ | ⟨hno, -⟩ := splitWords_append hfirst hflat (spelled word rest)
      · exact hsplit.trans (congrArg (first ++ '_' :: ·) (ih hw hrest))
      · exact absurd hump hno
    · rw [spelled, splitWords_append_gap hfirst hflat hgap, ih hw hrest, List.map_cons, fill,
        if_neg hgap, spelled]

/-- **What comes out cut at separators was cut at these and at the humps.** -/
theorem exists_of_splitWords_eq_spelled {first cs : List Char} {rest : List (Gap × List Char)}
    (hw : ∀ x ∈ first :: rest.map Prod.snd, IsWord x) (hseparated : AllSeparated rest)
    (h : Role.splitWords cs = spelled first rest) :
    ∃ rest', rest'.map fill = rest ∧ spelled first rest' = cs ∧ HumpsAtBorders first rest' := by
  induction rest generalizing first cs with
  | nil =>
    have hend : Role.splitWords cs = first ++ [] := h.trans (List.append_nil first).symm
    obtain ⟨hflat, cs', rfl, hbehind⟩ :=
      exists_of_splitWords_eq_append (hw first List.mem_cons_self) hend
    obtain ⟨-, hbehind⟩ | hbehind := hbehind
    · cases hbehind
    · rw [splitWords_eq_nil hbehind.symm, List.append_nil]
      exact ⟨[], rfl, rfl, hflat⟩
  | cons g rest ih =>
    obtain ⟨gap, word⟩ := g
    obtain ⟨hfirst, hw⟩ := List.forall_mem_cons.mp hw
    obtain ⟨hgap, hrest⟩ := List.forall_mem_cons.mp hseparated
    have hword : IsWord word := hw word List.mem_cons_self
    obtain ⟨d, hd, -, hlow, -⟩ := Gap.exists_of_ne_nothing hgap
    obtain ⟨hflat, cs', rfl, ⟨hump, hbehind⟩ | hbehind⟩ := exists_of_splitWords_eq_append hfirst h
    · -- the underscore was put there, and what stood there was a hump
      obtain rfl : gap = .underscore := by
        cases gap with
        | underscore => rfl
        | hyphen | space => cases hbehind
        | nothing => exact absurd rfl hgap
      obtain ⟨rest', rfl, rfl, hhumps⟩ := ih hw hrest (List.cons.inj hbehind).2.symm
      exact ⟨(.nothing, word) :: rest', rfl, rfl, hflat,
        fun _ => (humpBetween_spelled hword.1 rest').mp hump, hhumps⟩
    · rw [hd, List.singleton_append] at hbehind
      obtain ⟨cs'', rfl⟩ : ∃ cs'', cs' = d :: cs'' :=
        List.head?_eq_some_iff.mp (by rw [← head?_splitWords, ← hbehind]; rfl)
      rw [splitWords_cons_of_not_low hlow] at hbehind
      obtain ⟨rest', rfl, rfl, hhumps⟩ := ih hw hrest (List.cons.inj hbehind).2.symm
      refine ⟨(gap, word) :: rest', ?_, ?_, hflat, fun he => absurd he hgap, hhumps⟩
      · rw [List.map_cons, fill, if_neg hgap]
      · rw [spelled, hd, List.singleton_append]

/-- **Folding behind the humps finds the texts whose humps are where nothing stands.** -/
theorem map_foldChar_splitWords_eq_iff {ws : List (List Char)} {cs : List Char} (hne : ws ≠ [])
    (hws : ∀ w ∈ ws, IsSmall w) :
    (Role.splitWords cs).map foldChar = join '_' ws
      ↔ ∃ c : Cut ws cs, HumpsAtBorders c.first c.rest := by
  rw [map_foldChar_eq_iff hne hws]
  constructor
  · rintro ⟨c, hc⟩
    obtain ⟨rest', hrest, htext, hhumps⟩ :=
      exists_of_splitWords_eq_spelled (c.isWord hws) hc c.text.symm
    refine ⟨⟨c.first, rest', htext, ?_⟩, hhumps⟩
    rw [← map_snd_map_fill, hrest]
    exact c.letters
  · rintro ⟨c, hc⟩
    refine ⟨⟨c.first, c.rest.map fill, ?_, ?_⟩, allSeparated_map_fill c.rest⟩
    · rw [← splitWords_spelled (c.isWord hws) hc, c.text]
    · rw [map_snd_map_fill]
      exact c.letters

/-! ## What a spelling is made of -/

/-- The letters of a row are those of its words. -/
theorem filter_isAlpha_spelled {first : List Char} {rest : List (Gap × List Char)}
    (hw : ∀ x ∈ first :: rest.map Prod.snd, IsWord x) :
    (spelled first rest).filter Char.isAlpha = (first :: rest.map Prod.snd).flatten := by
  have hword {w : List Char} (h : IsWord w) : w.filter Char.isAlpha = w :=
    List.filter_eq_self.mpr h.2
  induction rest generalizing first with
  | nil => simpa [spelled] using (hw first List.mem_cons_self).2
  | cons g rest ih =>
    obtain ⟨hfirst, hw⟩ := List.forall_mem_cons.mp hw
    have hgap : g.1.chars.filter Char.isAlpha = [] := by cases g.1 <;> decide
    rw [spelled, List.filter_append, List.filter_append, hword hfirst, hgap, List.nil_append, ih hw]
    rfl

/-- The letters of a text say what words it is a spelling of. -/
theorem Cut.flatten_eq {ws : List (List Char)} {cs : List Char} (hws : ∀ w ∈ ws, IsSmall w)
    (c : Cut ws cs) : ws.flatten = (cs.filter Char.isAlpha).map foldChar := by
  rw [← c.text, filter_isAlpha_spelled (c.isWord hws), List.map_flatten, c.map_foldChar hws]

theorem isAscii_spelled {first : List Char} {rest : List (Gap × List Char)}
    (hw : ∀ x ∈ first :: rest.map Prod.snd, IsWord x) : ∀ c ∈ spelled first rest, IsAscii c := by
  have hword {w : List Char} (h : IsWord w) : ∀ c ∈ w, IsAscii c :=
    fun c hc => isAscii_of_isAlpha (h.2 c hc)
  induction rest generalizing first with
  | nil => exact hword (hw first List.mem_cons_self)
  | cons g rest ih =>
    obtain ⟨hfirst, hw⟩ := List.forall_mem_cons.mp hw
    have hgap : ∀ c ∈ g.1.chars, IsAscii c := by cases g.1 <;> simp [Gap.chars, IsAscii]
    exact List.forall_mem_append.mpr
      ⟨hword hfirst, List.forall_mem_append.mpr ⟨hgap, ih hw⟩⟩

/-- The texts of either reading. -/
theorem spells_iff {ws : List (List Char)} {cs : List Char} (hne : ws ≠ [])
    (hws : ∀ w ∈ ws, IsSmall w) :
    Spells ws cs ↔ cs.map foldChar = join '_' ws
      ∨ (Role.splitWords cs).map foldChar = join '_' ws := by
  rw [map_foldChar_eq_iff hne hws, map_foldChar_splitWords_eq_iff hne hws]
  constructor
  · rintro ⟨c, hc⟩
    by_cases h : ∃ w ∈ c.rest, w.1 = .nothing
    · exact .inr ⟨c, hc h⟩
    · exact .inl ⟨c, fun g hg he => h ⟨g, hg, he⟩⟩
  · rintro (⟨c, hc⟩ | ⟨c, hc⟩)
    · exact ⟨c, fun ⟨w, hw, he⟩ => absurd he (hc w hw)⟩
    · exact ⟨c, fun _ => hc⟩

end Spelling

/-! ## Roles -/

section Roles

open Spelling

theorem Role.words_ne_nil (r : Role) : r.words ≠ [] := pieces_ne_nil '_' r.name.toList

theorem Role.isSmall_words (r : Role) : ∀ w ∈ r.words, IsSmall w := by
  cases r <;> decide +kernel

theorem Role.join_words (r : Role) : join '_' r.words = r.name.toList :=
  join_pieces '_' r.name.toList

theorem Role.isNameChar_name (r : Role) : ∀ c ∈ r.name.toList, IsNameChar c := by
  have hall : r.name.toList.all (fun c => decide (IsNameChar c)) = true := by
    cases r <;> decide +kernel
  exact fun c hc => of_decide_eq_true (List.all_eq_true.mp hall c hc)

/-- The letters of a role's name are no other role's. -/
theorem Role.words_flatten_injective {r r' : Role} (h : r.words.flatten = r'.words.flatten) :
    r = r' := by
  have hnodup : (Role.all.map fun r => r.words.flatten).Nodup := by decide +kernel
  exact List.inj_on_of_nodup_map hnodup r.mem_all r'.mem_all h

theorem Role.ofNameChars?_eq_some_iff {cs : List Char} {r : Role} :
    Role.ofNameChars? cs = some r ↔ cs = r.name.toList := by
  constructor
  · intro h
    unfold Role.ofNameChars? at h
    have hname := List.find?_some h
    exact (eq_of_beq hname).symm
  · rintro rfl
    cases r <;> decide +kernel

/-- The role of a text that is folded to its name. -/
theorem Role.ofNameChars?_normalize {cs : List Char} {r : Role} :
    Role.ofNameChars? (Role.normalize cs) = some r ↔ cs.map foldChar = join '_' r.words := by
  rw [Role.ofNameChars?_eq_some_iff, normalize_eq_iff r.isNameChar_name, r.join_words]

/-- **No text is a spelling of two roles.** -/
theorem Spelling.Spells.role_unique {r r' : Role} {cs : List Char} (h : Spells r.words cs)
    (h' : Spells r'.words cs) : r = r' := by
  obtain ⟨c, -⟩ := h
  obtain ⟨c', -⟩ := h'
  refine Role.words_flatten_injective ?_
  rw [c.flatten_eq r.isSmall_words, c'.flatten_eq r'.isSmall_words]

/-- **The two readings find exactly the spellings.** -/
theorem Role.ofSpelling?_eq_some_iff {s : String} {r : Role} :
    Role.ofSpelling? s = some r ↔ Spells r.words (trimChars s.toList) := by
  have hspells (r : Role) : Spells r.words (trimChars s.toList)
      ↔ Role.ofNameChars? (Role.normalize (trimChars s.toList)) = some r
        ∨ Role.ofNameChars? (Role.normalize (Role.splitWords (trimChars s.toList))) = some r := by
    rw [Role.ofNameChars?_normalize, Role.ofNameChars?_normalize]
    exact spells_iff r.words_ne_nil r.isSmall_words
  rw [hspells]
  refine Option.or_eq_some_iff.trans (or_congr_right' fun hfirst => ?_)
  refine ⟨And.right, fun hsecond => ⟨?_, hsecond⟩⟩
  -- the first reading finds no other role, since no text is a spelling of two
  refine Option.eq_none_iff_forall_ne_some.mpr fun r' hr' => hfirst ?_
  rw [hr', ((hspells r').mpr (.inl hr')).role_unique ((hspells r).mpr (.inr hsecond))]

/-- A text is read by the role that it is a spelling of. -/
theorem Role.read_text_eq (s : String) :
    Role.read (.text s) = match Role.ofSpelling? s with
      | some r => .ok r
      | none => .error (.notARole (Raw.text s).quote) := by
  cases h : Role.ofSpelling? s <;> simp [Role.read, h]

end Roles

/-- **The texts that stand for a role are exactly its spellings.**

What is left of a text without the blanks at its ends is read as a role if and only if it has the
words of the role's name, in any letter case, with an underscore, a hyphen, one space or nothing
between each two, and if its humps are exactly the borders where nothing stands as soon as there is
such a border. Every other text is an error that shows it, and so is every text that has a character
outside ASCII left. No text is a spelling of two roles. -/
theorem spelling_exact (s : String) :
    (∀ r, Role.read (.text s) = .ok r ↔ Spelling.Spells r.words (trimChars s.toList))
      ∧ ((∀ r : Role, ¬ Spelling.Spells r.words (trimChars s.toList)) →
          Role.read (.text s) = .error (.notARole (Raw.text s).quote))
      ∧ ((∃ c ∈ trimChars s.toList, ¬ IsAscii c) →
          Role.read (.text s) = .error (.notARole (Raw.text s).quote))
      ∧ ∀ r r' : Role, Spelling.Spells r.words (trimChars s.toList) →
          Spelling.Spells r'.words (trimChars s.toList) → r = r' := by
  have hread (r : Role) :
      Role.read (.text s) = .ok r ↔ Spelling.Spells r.words (trimChars s.toList) := by
    rw [← Role.ofSpelling?_eq_some_iff, Role.read_text_eq]
    cases Role.ofSpelling? s <;> simp
  have hfault (h : ∀ r : Role, ¬ Spelling.Spells r.words (trimChars s.toList)) :
      Role.read (.text s) = .error (.notARole (Raw.text s).quote) := by
    have hnone : Role.ofSpelling? s = none :=
      Option.eq_none_iff_forall_ne_some.mpr fun r hr => h r (Role.ofSpelling?_eq_some_iff.mp hr)
    rw [Role.read_text_eq, hnone]
  refine ⟨hread, hfault, fun ⟨c, hc, hn⟩ => hfault fun r ⟨cut, _⟩ => hn ?_,
    fun r r' h h' => h.role_unique h'⟩
  rw [← cut.text] at hc
  exact Spelling.isAscii_spelled (cut.isWord r.isSmall_words) c hc

/-- A hump at the border is read. -/
example : Role.ofSpelling? " MainNode " = some .mainNode := by decide +kernel

/-- A hump inside a word keeps it from being read. -/
example : Role.ofSpelling? "mAinNode" = none := by decide +kernel

end Credentials
