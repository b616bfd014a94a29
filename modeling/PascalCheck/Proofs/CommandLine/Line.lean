import Mathlib.Data.List.TakeWhile
import PascalCheck.CommandLine.Options

namespace PascalCheck.CommandLine

inductive Item (σ : Type) where
  | option (act : Choice σ × Option String)
  | word (text : String)

def Item.word? : Item σ → Option String
  | .option _ => none
  | .word text => some text

namespace Usage

variable {σ : Type} {usage : Usage σ}

-- The ways to write an option: by its name or a beginning that no other name has, with a value behind an equals sign,
-- and by a short name with more behind it.
inductive Written (usage : Usage σ) : List Char → Found σ → Prop
  | name {name : String} {choice : Choice σ} (known : (name,choice) ∈ usage.named) :
      Written usage name.toList ⟨choice,name,none⟩
  | named {name : String} {choice : Choice σ} {value : List Char} (known : (name,choice) ∈ usage.named)
      (plain : '=' ∉ name.toList) : Written usage (name.toList ++ '=' :: value) ⟨choice,name,some value⟩
  | begun {start : List Char} {name : String} {choice : Choice σ} (known : (name,choice) ∈ usage.named)
      (begins : start <+: name.toList) (only : ∀ other ∈ usage.named, start <+: other.1.toList → other = (name,choice)) :
      Written usage start ⟨choice,name,none⟩
  | begunNamed {start value : List Char} {name : String} {choice : Choice σ} (known : (name,choice) ∈ usage.named)
      (begins : start <+: name.toList) (only : ∀ other ∈ usage.named, start <+: other.1.toList → other = (name,choice))
      (long : "--".toList <+: start) (plain : '=' ∉ start) : Written usage (start ++ '=' :: value) ⟨choice,name,some value⟩
  | joined {c d : Char} {value : List Char} {name : String} {choice : Choice σ} (known : (name,choice) ∈ usage.named)
      (short : name.toList = ['-',c]) (single : c ≠ '-') (apart : '=' ∉ name.toList → d ≠ '=') :
      Written usage ('-' :: c :: d :: value) ⟨choice,name,some (d :: value)⟩

theorem other_sign {chars : List Char} (plain : '=' ∉ chars) : ∀ c ∈ chars, (c != '=') = true := by
  intro c member
  have other : c ≠ '=' := fun same => plain (same ▸ member)
  simpa using other

theorem cut_plain {chars : List Char} (plain : '=' ∉ chars) : cutAtEquals chars = (chars,none) := by
  rw [cutAtEquals,List.dropWhile_eq_nil_iff.mpr (other_sign plain)]

theorem cut_named {start : List Char} (plain : '=' ∉ start) (after : List Char) :
    cutAtEquals (start ++ '=' :: after) = (start,some after) := by
  have front : (start ++ '=' :: after).takeWhile (· != '=') = start := by
    rw [List.takeWhile_append_of_pos (other_sign plain)]
    simp
  have back : (start ++ '=' :: after).dropWhile (· != '=') = '=' :: after := by
    rw [List.dropWhile_append_of_pos (other_sign plain)]
    simp
  rw [cutAtEquals,back,front]

theorem cut_cases (chars : List Char) : ('=' ∉ chars ∧ cutAtEquals chars = (chars,none)) ∨
    ∃ start after, chars = start ++ '=' :: after ∧ '=' ∉ start ∧ cutAtEquals chars = (start,some after) := by
  by_cases sign : '=' ∈ chars
  · obtain ⟨start,after,rfl,plain⟩ := List.eq_append_cons_of_mem sign
    exact Or.inr ⟨start,after,rfl,plain,cut_named plain after⟩
  · exact Or.inl ⟨sign,cut_plain sign⟩

inductive Word (usage : Usage σ) : String → Prop
  | plain {text : String} (free : text.toList.head? ≠ some '-') : Word usage text
  | dash {text : String} (single : text.toList = ['-']) : Word usage text
  | odd {text : String} (other : ∀ found, ¬ Written usage text.toList found)
      (looks : isNegativeNumber text.toList = true ∨ ' ' ∈ text.toList) : Word usage text

def remainder : List Char → Option (List Char)
  | [] => none
  | chars => some chars

-- What the options in one argument ask for: the switches, the value joined to the last one, or the last one itself if
-- its value is still to come.
inductive Bundle (usage : Usage σ) :
    Choice σ → Bool → Option (List Char) → List (Choice σ × Option String) → Option (Choice σ) → Prop
  | switch {choice : Choice σ} {short : Bool} (plain : choice.takesValue = false) :
      Bundle usage choice short none [(choice,none)] none
  | awaits {choice : Choice σ} {short : Bool} (takes : choice.takesValue = true) :
      Bundle usage choice short none [] (some choice)
  | joined {choice : Choice σ} {short : Bool} {value : List Char} (takes : choice.takesValue = true) :
      Bundle usage choice short (some value) [(choice,kept (String.ofList value))] none
  | more {choice next : Choice σ} {c : Char} {others : List Char} {acts : List (Choice σ × Option String)}
      {last : Option (Choice σ)} (plain : choice.takesValue = false)
      (known : (String.ofList ['-',c],next) ∈ usage.named)
      (behind : Bundle usage next true (remainder others) acts last) :
      Bundle usage choice true (some (c :: others)) ((choice,none) :: acts) last

def Ending.acts : Ending σ → List (Choice σ × Option String)
  | .joined choice value => [(choice,kept value)]
  | _ => []

def Ending.last : Ending σ → Option (Choice σ)
  | .awaiting choice => some choice
  | _ => none

def Cluster.acts (cluster : Cluster σ) : List (Choice σ × Option String) :=
  (cluster.flags.map fun choice => (choice,none)) ++ cluster.ending.acts

-- A command line and what stands in it, in order. Behind the separator everything is a word.
inductive Line (usage : Usage σ) : List String → List (Item σ) → Prop
  | nil : Line usage [] []
  | behind (texts : List String) : Line usage ("--" :: texts) (texts.map .word)
  | word {text : String} {arguments : List String} {items : List (Item σ)} (other : text ≠ "--") (word : Word usage text)
      (rest : Line usage arguments items) : Line usage (text :: arguments) (.word text :: items)
  | option {text : String} {found : Found σ} {acts : List (Choice σ × Option String)} {arguments : List String}
      {items : List (Item σ)} (other : text ≠ "--") (written : Written usage text.toList found)
      (bundle : Bundle usage found.choice (isShort found.name) found.joined acts none)
      (rest : Line usage arguments items) : Line usage (text :: arguments) (acts.map .option ++ items)
  | valued {text value : String} {found : Found σ} {acts : List (Choice σ × Option String)} {last : Choice σ}
      {arguments : List String} {items : List (Item σ)} (other : text ≠ "--") (written : Written usage text.toList found)
      (bundle : Bundle usage found.choice (isShort found.name) found.joined acts (some last)) (another : value ≠ "--")
      (word : Word usage value) (rest : Line usage arguments items) :
      Line usage (text :: value :: arguments) ((acts ++ [(last,some value)]).map .option ++ items)

def give (usage : Usage σ) (settings : σ) : Item σ → Except Stop σ
  | .option entry => act settings entry.1 entry.2
  | .word text => .ok (usage.subject.elim settings fun subject => subject.2 text settings)

def words (items : List (Item σ)) : List String := items.filterMap Item.word?

end Usage
end PascalCheck.CommandLine
