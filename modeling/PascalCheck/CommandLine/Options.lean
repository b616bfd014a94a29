import PascalCheck.Text.Numeral
import PascalCheck.Text.Quoted

namespace PascalCheck.CommandLine

-- What an option does to the settings of a run. An option that takes a value may be left without.
inductive Effect (σ : Type) where
  | help
  | switch (change : σ → σ)
  | text (change : Option String → σ → σ)
  | number (change : Option Int → σ → σ)

structure Choice (σ : Type) where
  names : List String
  effect : Effect σ

-- subject is the one argument that is no option, if the program has one: its name and its effect.
structure Usage (σ : Type) where
  program : String
  synopsis : String
  details : String
  choices : List (Choice σ)
  subject : Option (String × (String → σ → σ))

inductive Refusal where
  | ambiguous (given : String) (matching : List String)
  | valueMissing (choice : String)
  | valueUnwanted (choice value : String)
  | notNumber (choice value : String)
  | subjectMissing (name : String)
  | unknown (arguments : List String)
deriving DecidableEq, Repr

def Refusal.message : Refusal → String
  | .ambiguous given matching => "ambiguous option: " ++ given ++ " could match " ++ ", ".intercalate matching
  | .valueMissing choice => "argument " ++ choice ++ ": expected one argument"
  | .valueUnwanted choice value => "argument " ++ choice ++ ": ignored explicit argument " ++ Text.quoted value
  | .notNumber choice value => "argument " ++ choice ++ ": invalid int value: " ++ Text.quoted value
  | .subjectMissing name => "the following arguments are required: " ++ name
  | .unknown arguments => "unrecognized arguments: " ++ " ".intercalate arguments

inductive Stop where
  | help
  | refused (why : Refusal)
deriving DecidableEq, Repr

namespace Choice

def title (choice : Choice σ) : String := "/".intercalate choice.names

def takesValue (choice : Choice σ) : Bool :=
  match choice.effect with
  | .help | .switch _ => false
  | .text _ | .number _ => true

end Choice

-- An option as it is found in an argument: the name that it goes by, and the text joined to it.
structure Found (σ : Type) where
  choice : Choice σ
  name : String
  joined : Option (List Char)

-- The arguments by their parts: option does not say that the program knows it, and everything
-- behind the separator is plain.
inductive Argument (σ : Type) where
  | plain (text : String)
  | separator
  | option (found : Option (Found σ)) (given : String)

namespace Usage

def named (usage : Usage σ) : List (String × Choice σ) :=
  usage.choices.flatMap fun choice => choice.names.map fun name => (name,choice)

def choice? (usage : Usage σ) (name : String) : Option (Choice σ) := usage.named.lookup name

-- A dash, then digits, or digits with a point in front of the last of them; a line feed may end it.
def isNegativeNumber (chars : List Char) : Bool :=
  let digit := fun c => (Text.digitValue? c).isSome
  match chars with
  | '-' :: body =>
    let body := if body.getLast? = some '\n' then body.dropLast else body
    let whole := body.takeWhile digit
    match body.dropWhile digit with
    | [] => !whole.isEmpty
    | '.' :: decimals => !decimals.isEmpty && decimals.all digit
    | _ => false
  | _ => false

def cutAtEquals (chars : List Char) : List Char × Option (List Char) :=
  match chars.dropWhile (· != '=') with
  | [] => (chars,none)
  | _ :: after => (chars.takeWhile (· != '='),some after)

-- All options that an argument can stand for whose own text is no option's name.
def candidates (usage : Usage σ) (chars : List Char) : List (Found σ) :=
  if "--".toList.isPrefixOf chars then
    let (start,after) := cutAtEquals chars
    (usage.named.filter fun entry => start.isPrefixOf entry.1.toList).map fun entry =>
      ⟨entry.2,entry.1,after⟩
  else
    usage.named.filterMap fun entry =>
      if entry.1.toList = chars.take 2 then some ⟨entry.2,entry.1,some (chars.drop 2)⟩
      else if chars.isPrefixOf entry.1.toList then some ⟨entry.2,entry.1,none⟩
      else none

def classify (usage : Usage σ) (given : String) : Except Refusal (Argument σ) :=
  let chars := given.toList
  if chars.head? ≠ some '-' then .ok (.plain given)
  else match usage.choice? given with
    | some choice => .ok (.option (some ⟨choice,given,none⟩) given)
    | none =>
      if chars.length = 1 then .ok (.plain given)
      else
        let (start,after) := cutAtEquals chars
        let exact := after.bind fun _ => usage.choice? (String.ofList start)
        match exact with
        | some choice => .ok (.option (some ⟨choice,String.ofList start,after⟩) given)
        | none =>
          match usage.candidates chars with
          | [found] => .ok (.option (some found) given)
          | [] => .ok (if isNegativeNumber chars || chars.contains ' ' then .plain given else .option none given)
          | several => .error (.ambiguous given (several.map Found.name))

def classifyAll (usage : Usage σ) : List String → Except Refusal (List (Argument σ))
  | [] => .ok []
  | "--" :: others => .ok (.separator :: others.map .plain)
  | given :: others => do return (← usage.classify given) :: (← classifyAll usage others)

-- How an option argument ends: with nothing more, with a value joined to its last option, or with
-- an option whose value is still to come.
inductive Ending (σ : Type) where
  | nothing
  | joined (choice : Choice σ) (value : String)
  | awaiting (choice : Choice σ)

structure Cluster (σ : Type) where
  flags : List (Choice σ)
  ending : Ending σ

def isShort (name : String) : Bool := name.toList[1]? != some '-'

-- Behind a short option without a value other short options may be joined.
def spread (usage : Usage σ) (choice : Choice σ) (short : Bool) : Option (List Char) → Except Refusal (Cluster σ)
  | none => .ok (if choice.takesValue then ⟨[],.awaiting choice⟩ else ⟨[choice],.nothing⟩)
  | some chars =>
    if choice.takesValue then .ok ⟨[],.joined choice (String.ofList chars)⟩
    else
      let unwanted := Refusal.valueUnwanted choice.title (String.ofList chars)
      match chars with
      | [] => .error unwanted
      | c :: tail =>
        match if short then usage.choice? (String.ofList ['-',c]) else none with
        | none => .error unwanted
        | some next => do
          let cluster ← match tail with
            | [] => spread usage next true none
            | d :: others => spread usage next true (some (d :: others))
          return ⟨choice :: cluster.flags,cluster.ending⟩
termination_by joined => joined.elim 0 fun chars => chars.length + 1

-- What one option argument amounts to: options with their values, and the arguments behind it that
-- it leaves.
structure Reading (σ : Type) where
  acts : List (Choice σ × Option String)
  left : List (Argument σ)

-- A separator joined to an option is dropped, and leaves the option without a value.
def kept (value : String) : Option String := if value = "--" then none else some value

def readOption (usage : Usage σ) (found : Found σ) (left : List (Argument σ)) : Except Refusal (Reading σ) := do
  let cluster ← usage.spread found.choice (isShort found.name) found.joined
  let flags := cluster.flags.map fun choice => (choice,none)
  match cluster.ending,left with
  | .nothing,_ => return ⟨flags,left⟩
  | .joined choice value,_ => return ⟨flags ++ [(choice,kept value)],left⟩
  | .awaiting choice,.plain value :: left => return ⟨flags ++ [(choice,some value)],left⟩
  | .awaiting choice,_ => .error (.valueMissing choice.title)

theorem readOption_left {usage : Usage σ} {found : Found σ} {left : List (Argument σ)} {reading : Reading σ}
    (read : usage.readOption found left = .ok reading) : reading.left.length ≤ left.length := by
  unfold readOption at read
  cases spreading : usage.spread found.choice (isShort found.name) found.joined with
  | error refusal => rw [spreading] at read; cases read
  | ok cluster =>
    rw [spreading] at read
    simp only [bind,Except.bind] at read
    split at read
    · cases read; exact Nat.le_refl _
    · cases read; exact Nat.le_refl _
    · cases read; exact Nat.le_succ _
    · cases read

def act (settings : σ) (choice : Choice σ) (value : Option String) : Except Stop σ :=
  match choice.effect,value with
  | .help,_ => .error .help
  | .switch change,_ => .ok (change settings)
  | .text change,value => .ok (change value settings)
  | .number change,none => .ok (change none settings)
  | .number change,some text =>
    match Text.readInteger? text with
    | some n => .ok (change (some n) settings)
    | none => .error (.refused (.notNumber choice.title text))

structure Progress (σ : Type) where
  settings : σ
  wanted : Option (String × (String → σ → σ))
  extra : List String

def dropSeparator : List (Argument σ) → List (Argument σ)
  | .separator :: left => left
  | left => left

theorem dropSeparator_le (left : List (Argument σ)) : (dropSeparator left).length ≤ left.length := by
  unfold dropSeparator
  split <;> simp

-- Arguments in order. The first plain one is the subject, and takes separators beside it along;
-- the others are not understood.
def readAll (usage : Usage σ) (progress : Progress σ) : List (Argument σ) → Except Stop (Progress σ)
  | [] => .ok progress
  | .option none given :: left => readAll usage { progress with extra := progress.extra ++ [given] } left
  | .option (some found) _ :: left =>
    match _ : usage.readOption found left with
    | .error why => .error (.refused why)
    | .ok reading => do
      let settings ← reading.acts.foldlM (fun settings entry => act settings entry.1 entry.2) progress.settings
      readAll usage { progress with settings := settings } reading.left
  | .plain text :: left =>
    match progress.wanted with
    | some (_,change) =>
      readAll usage { progress with settings := change text progress.settings, wanted := none } (dropSeparator left)
    | none => readAll usage { progress with extra := progress.extra ++ [text] } left
  | .separator :: .plain text :: left =>
    match progress.wanted with
    | some (_,change) =>
      readAll usage { progress with settings := change text progress.settings, wanted := none } left
    | none => readAll usage { progress with extra := progress.extra ++ ["--"] } (.plain text :: left)
  | .separator :: left => readAll usage { progress with extra := progress.extra ++ ["--"] } left
termination_by left => left.length
decreasing_by
  · simp
  · have kept := readOption_left ‹_›
    simp only [List.length_cons]
    omega
  · have kept := dropSeparator_le left
    simp only [List.length_cons]
    omega
  all_goals
    simp only [List.length_cons]
    omega

def read (usage : Usage σ) (settings : σ) (arguments : List String) : Except Stop σ := do
  let classified ← (usage.classifyAll arguments).mapError Stop.refused
  let progress ← usage.readAll ⟨settings,usage.subject,[]⟩ classified
  match progress.wanted with
  | some (name,_) => .error (.refused (.subjectMissing name))
  | none =>
    if progress.extra.isEmpty then return progress.settings
    else .error (.refused (.unknown progress.extra))

def refusalText (usage : Usage σ) (why : Refusal) : String :=
  usage.synopsis ++ usage.program ++ ": error: " ++ why.message ++ "\n"

def helpText (usage : Usage σ) : String := usage.synopsis ++ "\n" ++ usage.details

end Usage

end PascalCheck.CommandLine
