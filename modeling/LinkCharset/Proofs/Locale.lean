import LinkCharset.Locale
import Mathlib.Data.List.TakeWhile
import Mathlib.Tactic

/-! # The charset that a locale name stands for

The name of a locale is cut at its first dot and then at the next at sign. This finds the codeset
where there is one; where there is none, a dot in the modifier is taken for the start of one. -/
namespace LinkCharset

/-- What the name of a locale is made of. -/
structure LocaleName where
  language : String
  territory : Option String
  codeset : Option String
  modifier : Option String
  language_plain : '.' ∉ language.toList ∧ '@' ∉ language.toList
  territory_plain : ∀ name ∈ territory, '.' ∉ name.toList ∧ '@' ∉ name.toList
  codeset_plain : ∀ name ∈ codeset, '@' ∉ name.toList

section Codeset

theorem bne_of_not_mem {sign : Char} {part : List Char} (lacks : sign ∉ part) :
    ∀ c ∈ part, (c != sign) = true :=
  fun _ inside => bne_iff_ne.mpr (ne_of_mem_of_not_mem inside lacks)

variable {name : String} (isPlain : name ≠ "C" ∧ name ≠ "POSIX")
include isPlain

theorem codeset?_of_no_dot (noDot : '.' ∉ name.toList) : codeset? name = none := by
  rw [codeset?, if_neg (by simp [isPlain]), List.dropWhile_eq_nil_iff.mpr (bne_of_not_mem noDot)]

theorem codeset?_of_dot {front codeset behind : List Char}
    (whole : name.toList = front ++ '.' :: (codeset ++ behind)) (noDot : '.' ∉ front)
    (noAt : '@' ∉ codeset) (ends : behind = [] ∨ ∃ rest, behind = '@' :: rest) :
    codeset? name = if codeset = [] then none else some (String.ofList codeset) := by
  have fromDot : name.toList.dropWhile (· != '.') = '.' :: (codeset ++ behind) := by
    rw [whole, List.dropWhile_append_of_pos (bne_of_not_mem noDot), List.dropWhile_cons_of_neg (by simp)]
  have upToAt : (codeset ++ behind).takeWhile (· != '@') = codeset := by
    rw [List.takeWhile_append_of_pos (bne_of_not_mem noAt)]
    rcases ends with rfl | ⟨rest, rfl⟩
    · simp
    · simp
  rw [codeset?, if_neg (by simp [isPlain]), fromDot]
  simp only [upToAt]
  cases codeset with
  | nil => rfl
  | cons c rest => rfl

end Codeset

namespace LocaleName

def optionalPart (sign : Char) (part : Option String) : List Char :=
  part.elim [] fun name => sign :: name.toList

variable (n : LocaleName)

def front : List Char := n.language.toList ++ optionalPart '_' n.territory

/-- The name as it is written: `language[_territory][.codeset][@modifier]`. -/
def text : String :=
  String.ofList (n.front ++ optionalPart '.' n.codeset ++ optionalPart '@' n.modifier)

theorem toList_text :
    n.text.toList = n.front ++ optionalPart '.' n.codeset ++ optionalPart '@' n.modifier :=
  String.toList_ofList

theorem front_plain : '.' ∉ n.front ∧ '@' ∉ n.front := by
  rcases n.language_plain with ⟨noDot, noAt⟩
  rw [front, optionalPart]
  cases named : n.territory with
  | none => simpa using ⟨noDot, noAt⟩
  | some territory =>
    rcases n.territory_plain territory named with ⟨noDot', noAt'⟩
    simp [noDot, noAt, noDot', noAt']

/-- A text is cut at the first of some sign, if it has one. -/
theorem exists_cut (sign : Char) (text : List Char) :
    ∃ part behind, text = part ++ optionalPart sign behind ∧ sign ∉ part := by
  induction text with
  | nil => exact ⟨[], none, rfl, List.not_mem_nil⟩
  | cons c text ih =>
    by_cases isSign : c = sign
    · exact ⟨[], some (String.ofList text), by simp [optionalPart, isSign], List.not_mem_nil⟩
    · rcases ih with ⟨part, behind, rfl, lacks⟩
      exact ⟨c :: part, behind, rfl, List.not_mem_cons_of_ne_of_not_mem (Ne.symm isSign) lacks⟩

theorem exists_text (name : String) : ∃ n : LocaleName, n.text = name := by
  rcases exists_cut '@' name.toList with ⟨main, modifier, whole, noAt⟩
  rcases exists_cut '.' main with ⟨language, codeset, rfl, noDot⟩
  have plain : '@' ∉ language ∧ '@' ∉ optionalPart '.' codeset := by simpa using noAt
  have codeset_plain : ∀ part ∈ codeset, '@' ∉ part.toList := by
    rintro part ⟨rfl⟩
    simpa [optionalPart] using plain.2
  refine ⟨⟨.ofList language, none, codeset, modifier, ?_, by simp, codeset_plain⟩, ?_⟩
  · simpa using ⟨noDot, plain.1⟩
  · apply String.toList_injective
    rw [toList_text, whole]
    simp [front, optionalPart]

/-- What is taken for the codeset of a locale. -/
structure IsReadAs (found? : Option String) : Prop where
  /-- Its own, unless that is empty. -/
  own : ∀ codeset, n.codeset = some codeset → found? = if codeset = "" then none else some codeset
  lacks : n.codeset = none → (∀ modifier, n.modifier = some modifier → '.' ∉ modifier.toList) →
    found? = none
  /-- Where it has none, what stands in the modifier behind the first dot, up to the next at sign.
  -/
  strays : n.codeset = none → ∀ before part behind : String,
    n.modifier = some (before ++ "." ++ part ++ behind) → '.' ∉ before.toList → '@' ∉ part.toList →
      (behind = "" ∨ ∃ rest, behind = "@" ++ rest) → found? = if part = "" then none else some part

theorem isReadAs_codeset? (isPlain : n.text ≠ "C" ∧ n.text ≠ "POSIX") : n.IsReadAs (codeset? n.text) where
  own codeset has := by
    have whole : n.text.toList = n.front ++ '.' :: (codeset.toList ++ optionalPart '@' n.modifier) := by
      simp [toList_text, has, optionalPart]
    have ends : optionalPart '@' n.modifier = [] ∨ ∃ rest, optionalPart '@' n.modifier = '@' :: rest := by
      cases n.modifier with
      | none => exact .inl rfl
      | some modifier => exact .inr ⟨_, rfl⟩
    rw [codeset?_of_dot isPlain whole n.front_plain.1 (n.codeset_plain codeset has) ends]
    simp
  lacks none noDot := by
    refine codeset?_of_no_dot isPlain ?_
    rw [toList_text, none]
    cases has : n.modifier with
    | none => simpa [optionalPart] using n.front_plain.1
    | some modifier => simpa [optionalPart] using ⟨n.front_plain.1, noDot modifier has⟩
  strays none before part behind has noDot noAt ends := by
    have whole : n.text.toList =
        (n.front ++ '@' :: before.toList) ++ '.' :: (part.toList ++ behind.toList) := by
      simp [toList_text, none, has, optionalPart]
    have noDot' : '.' ∉ n.front ++ '@' :: before.toList := by
      simpa using ⟨n.front_plain.1, noDot⟩
    have ends' : behind.toList = [] ∨ ∃ rest, behind.toList = '@' :: rest := by
      rcases ends with rfl | ⟨rest, rfl⟩
      · exact .inl rfl
      · exact .inr ⟨rest.toList, by simp⟩
    rw [codeset?_of_dot isPlain whole noDot' noAt ends']
    simp

end LocaleName

namespace LocaleVariables

def IsUnset (value : Option String) : Prop := value = none ∨ value = some ""

variable (v : LocaleVariables)

/-- The values of `LC_ALL`, `LC_CTYPE` and `LANG`. -/
def names : List (Option String) := [v.lcAll, v.lcCtype, v.lang]

def Governs (name : String) : Prop :=
  ∃ before after, v.names = before ++ some name :: after ∧ name ≠ "" ∧ ∀ value ∈ before, IsUnset value

theorem nonEmpty_eq_none_iff {value : Option String} : nonEmpty value = none ↔ IsUnset value := by
  rw [nonEmpty, IsUnset]
  cases value with
  | none => simp
  | some name => simp

theorem nonEmpty_eq_some_iff {value : Option String} {name : String} :
    nonEmpty value = some name ↔ value = some name ∧ name ≠ "" := by
  rw [nonEmpty, Option.filter_eq_some_iff, bne_iff_ne]

theorem governing?_eq : v.governing? = v.names.findSome? nonEmpty := by
  rw [governing?, names]
  cases all : nonEmpty v.lcAll with
  | some name => simp [all]
  | none =>
    cases ctype : nonEmpty v.lcCtype with
    | some name => simp [all, ctype]
    | none => cases lang : nonEmpty v.lang <;> simp [all, ctype, lang]

variable {v}

theorem governing?_eq_none_iff : v.governing? = none ↔ ∀ value ∈ v.names, IsUnset value := by
  rw [governing?_eq, List.findSome?_eq_none_iff]
  simp only [nonEmpty_eq_none_iff]

theorem governing?_eq_some_iff {name : String} : v.governing? = some name ↔ v.Governs name := by
  rw [governing?_eq, List.findSome?_eq_some_iff, Governs]
  simp only [nonEmpty_eq_none_iff, nonEmpty_eq_some_iff]
  constructor
  · rintro ⟨before, value, after, whole, ⟨rfl, isSet⟩, unset⟩
    exact ⟨before, after, whole, isSet, unset⟩
  · rintro ⟨before, after, whole, isSet, unset⟩
    exact ⟨before, some name, after, whole, ⟨rfl, isSet⟩, unset⟩

theorem value_detect_of_unset (unset : IsUnset v.charset) : v.detect.1 = v.governing?.bind codeset? := by
  rw [detect, nonEmpty_eq_none_iff.mpr unset]
  cases v.governing? with
  | none => rfl
  | some name => rfl

variable (v)

/-- The charset variable goes before the name of the locale in force, which is the first that is
set; names behind it do not matter. The two names of the standard locale have a charset of their
own, and any other is read by its parts. -/
theorem charset_of_environment :
    (∀ charset, v.charset = some charset → charset ≠ "" → v.detect.1 = some charset) ∧
    (IsUnset v.charset →
      ((∀ value ∈ v.names, IsUnset value) → v.detect.1 = none) ∧
      ∀ name, v.Governs name →
        (name = "C" ∨ name = "POSIX" → v.detect.1 = some "ANSI_X3.4-1968") ∧
        (name ≠ "C" → name ≠ "POSIX" →
          (∃ n : LocaleName, n.text = name) ∧ ∀ n : LocaleName, n.text = name → n.IsReadAs v.detect.1)) := by
  constructor
  · intro charset has isSet
    rw [detect, nonEmpty_eq_some_iff.mpr ⟨has, isSet⟩]
  · intro unset
    rw [value_detect_of_unset unset]
    constructor
    · intro none
      rw [governing?_eq_none_iff.mpr none]
      rfl
    · intro name governs
      rw [governing?_eq_some_iff.mpr governs, Option.bind_some]
      constructor
      · rintro (rfl | rfl)
        · rfl
        · rfl
      · intro notC notPosix
        refine ⟨LocaleName.exists_text name, ?_⟩
        rintro n rfl
        exact n.isReadAs_codeset? ⟨notC, notPosix⟩

/-- A name behind an empty one and in front of another; a name without a codeset whose modifier has
a dot. -/
theorem charset_of_environment_euro :
    (IsUnset none ∧ Governs ⟨none, some "", some "de_DE.ISO-8859-15@euro", some "C"⟩
      "de_DE.ISO-8859-15@euro" ∧
      (detect ⟨none, some "", some "de_DE.ISO-8859-15@euro", some "C"⟩).1 = some "ISO-8859-15") ∧
    (detect ⟨some "", none, none, some "en@x.y@z"⟩).1 = some "y" ∧
    (detect ⟨some "", none, none, some "POSIX"⟩).1 = some "ANSI_X3.4-1968" ∧
    (detect ⟨some "KOI8-R", none, none, some "C"⟩).1 = some "KOI8-R" := by
  have governs : Governs ⟨none, some "", some "de_DE.ISO-8859-15@euro", some "C"⟩
      "de_DE.ISO-8859-15@euro" :=
    ⟨[some ""], [some "C"], rfl, by decide, by simp [IsUnset]⟩
  have governs' : Governs ⟨some "", none, none, some "en@x.y@z"⟩ "en@x.y@z" :=
    ⟨[none, none], [], rfl, by decide, by simp [IsUnset]⟩
  have governs'' : Governs ⟨some "", none, none, some "POSIX"⟩ "POSIX" :=
    ⟨[none, none], [], rfl, by decide, by simp [IsUnset]⟩
  let euro : LocaleName := ⟨"de", some "DE", some "ISO-8859-15", some "euro", by decide, by simp, by simp⟩
  let dotted : LocaleName := ⟨"en", none, none, some "x.y@z", by decide, by simp, by simp⟩
  refine ⟨⟨.inl rfl, governs, ?_⟩, ?_, ?_, ?_⟩
  · rcases ((charset_of_environment _).2 (.inl rfl)).2 _ governs with ⟨-, read⟩
    exact ((read (by decide) (by decide)).2 euro (by decide)).own "ISO-8859-15" rfl
  · rcases ((charset_of_environment _).2 (.inr rfl)).2 _ governs' with ⟨-, read⟩
    exact ((read (by decide) (by decide)).2 dotted (by decide)).strays rfl "x" "y" "@z" rfl (by decide)
      (by decide) (.inr ⟨"z", rfl⟩)
  · exact (((charset_of_environment _).2 (.inr rfl)).2 _ governs'').1 (.inr rfl)
  · exact (charset_of_environment _).1 _ rfl (by decide)

/-- It is not so that a name is read as the codeset that it has. -/
theorem codeset_is_not_always_own :
    ¬ ∀ (v : LocaleVariables) (n : LocaleName), IsUnset v.charset → v.Governs n.text →
      n.text ≠ "C" → n.text ≠ "POSIX" → v.detect.1 = nonEmpty n.codeset := by
  intro own
  let dotted : LocaleName := ⟨"en", none, none, some "x.y", by decide, by simp, by simp⟩
  have governs : Governs ⟨none, none, none, some "en@x.y"⟩ dotted.text :=
    ⟨[none, none], [], by decide, by decide, by simp [IsUnset]⟩
  have read := own ⟨none, none, none, some "en@x.y"⟩ dotted (.inl rfl) governs (by decide) (by decide)
  exact absurd read (by decide)

end LocaleVariables

end LinkCharset
