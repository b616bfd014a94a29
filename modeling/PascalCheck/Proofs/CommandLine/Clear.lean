import PascalCheck.Proofs.CommandLine.Line

namespace PascalCheck.CommandLine.Usage

variable {σ : Type} {usage : Usage σ}

-- Names with one dash and one character, or with two dashes, that stand for one option each.
structure Clear (usage : Usage σ) : Prop where
  single : ∀ entry ∈ usage.named, ∀ other ∈ usage.named, entry.1 = other.1 → entry = other
  several : ∀ entry ∈ usage.named, ∃ other ∈ usage.named, other ≠ entry
  signless : ∀ entry ∈ usage.named, '=' ∉ entry.1.toList
  dashed : ∀ entry ∈ usage.named, (∃ c, c ≠ '-' ∧ entry.1.toList = ['-',c]) ∨
    ∃ c others, entry.1.toList = '-' :: '-' :: c :: others

-- The one name that is begun so, or spelled so.
structure Sole (usage : Usage σ) (start : List Char) (entry : String × Choice σ) : Prop where
  known : entry ∈ usage.named
  begins : start <+: entry.1.toList
  only : start = entry.1.toList ∨ ∀ other ∈ usage.named, start <+: other.1.toList → other = entry

theorem Sole.unique (clear : usage.Clear) {start : List Char} {entry other : String × Choice σ}
    (one : usage.Sole start entry) (two : usage.Sole start other) : entry = other := by
  rcases one.only with whole | only
  · rcases two.only with again | only
    · exact clear.single entry one.known other two.known (String.toList_inj.mp (whole.symm.trans again))
    · exact only entry one.known one.begins
  · exact (only other two.known two.begins).symm

theorem Clear.dash (clear : usage.Clear) {entry : String × Choice σ} (known : entry ∈ usage.named) :
    ∃ c others, entry.1.toList = '-' :: c :: others := by
  rcases clear.dashed entry known with ⟨c,_,same⟩ | ⟨c,others,same⟩
  · exact ⟨c,[],same⟩
  · exact ⟨'-',c :: others,same⟩

-- No option is begun by a dash alone, since all are.
theorem Sole.longer (clear : usage.Clear) {start : List Char} {entry : String × Choice σ} (sole : usage.Sole start entry) :
    ∃ c others, start = '-' :: c :: others := by
  obtain ⟨c,others,spelled⟩ := clear.dash sole.known
  have short : ¬ start <+: ['-'] := by
    intro front
    rcases sole.only with whole | only
    · have size := front.length_le
      simp [whole,spelled] at size
    · obtain ⟨other,known,apart⟩ := clear.several entry sole.known
      obtain ⟨d,rest,same⟩ := clear.dash known
      have dash : ['-'] <+: other.1.toList := same ▸ ⟨d :: rest,rfl⟩
      exact apart (only other known (front.trans dash))
  have begins := sole.begins
  rw [spelled] at begins
  match start with
  | [] => exact absurd List.nil_prefix short
  | [a] =>
    obtain ⟨rfl,_⟩ := List.cons_prefix_cons.mp begins
    exact absurd List.prefix_rfl short
  | a :: b :: more =>
    obtain ⟨rfl,_⟩ := List.cons_prefix_cons.mp begins
    exact ⟨b,more,rfl⟩

-- What is written with a name or its beginning in front, and what with a value right behind a short name.
inductive Shape (usage : Usage σ) : List Char → Found σ → Prop
  | cut {chars start : List Char} {after : Option (List Char)} {name : String} {choice : Choice σ}
      (cut : cutAtEquals chars = (start,after)) (sole : usage.Sole start (name,choice)) :
      Shape usage chars ⟨choice,name,after⟩
  | joined {c d : Char} {value : List Char} {name : String} {choice : Choice σ} (known : (name,choice) ∈ usage.named)
      (short : name.toList = ['-',c]) (single : c ≠ '-') (apart : d ≠ '=') :
      Shape usage ('-' :: c :: d :: value) ⟨choice,name,some (d :: value)⟩

theorem shape_of_written (clear : usage.Clear) {chars : List Char} {found : Found σ} (written : Written usage chars found) :
    Shape usage chars found := by
  cases written with
  | name known => exact .cut (cut_plain (clear.signless _ known)) ⟨known,List.prefix_rfl,Or.inl rfl⟩
  | named known plain => exact .cut (cut_named plain _) ⟨known,List.prefix_rfl,Or.inl rfl⟩
  | begun known begins only =>
    exact .cut (cut_plain fun sign => clear.signless _ known (begins.subset sign)) ⟨known,begins,Or.inr only⟩
  | begunNamed known begins only long plain => exact .cut (cut_named plain _) ⟨known,begins,Or.inr only⟩
  | joined known short single apart => exact .joined known short single (apart (clear.signless _ known))

-- A name in front of an equals sign is not short with more behind it.
theorem not_cut_of_joined (clear : usage.Clear) {c d : Char} {value start : List Char} {after : Option (List Char)}
    {name : String} {choice : Choice σ} (known : (name,choice) ∈ usage.named) (short : name.toList = ['-',c])
    (single : c ≠ '-') (apart : d ≠ '=') (cut : cutAtEquals ('-' :: c :: d :: value) = (start,after))
    (entry : String × Choice σ) : ¬ usage.Sole start entry := by
  intro sole
  have plain : c ≠ '=' := by
    rintro rfl
    exact clear.signless _ known (by rw [short]; simp)
  obtain ⟨others,same⟩ : ∃ others, start = '-' :: c :: d :: others := by
    rcases cut_cases ('-' :: c :: d :: value) with ⟨_,whole⟩ | ⟨front,behind,split,_,whole⟩
    · rw [whole] at cut
      exact ⟨value,(congrArg Prod.fst cut).symm⟩
    · rw [whole] at cut
      obtain ⟨rfl,_⟩ := Prod.mk.inj cut
      match front with
      | [] => cases split
      | [_] =>
        cases split
        exact absurd rfl plain
      | [_,_] =>
        cases split
        exact absurd rfl apart
      | _ :: _ :: _ :: more =>
        cases split
        exact ⟨more,rfl⟩
  rw [same] at sole
  obtain ⟨rest,whole⟩ := sole.begins
  rcases clear.dashed entry sole.known with ⟨_,_,spelled⟩ | ⟨_,_,spelled⟩
  · rw [spelled] at whole
    cases whole
  · rw [spelled] at whole
    cases whole
    exact single rfl

theorem Shape.unique (clear : usage.Clear) {chars : List Char} {found other : Found σ} (one : Shape usage chars found)
    (two : Shape usage chars other) : found = other := by
  cases one with
  | cut cut sole =>
    cases two with
    | cut again other =>
      rw [cut] at again
      cases again
      cases sole.unique clear other
      rfl
    | joined known short single apart => exact (not_cut_of_joined clear known short single apart cut _ sole).elim
  | joined known short single apart =>
    cases two with
    | cut cut sole => exact (not_cut_of_joined clear known short single apart cut _ sole).elim
    | joined again same _ _ =>
      cases clear.single _ known _ again (String.toList_inj.mp (short.trans same.symm))
      rfl

theorem Written.unique (clear : usage.Clear) {chars : List Char} {found other : Found σ} (one : Written usage chars found)
    (two : Written usage chars other) : found = other :=
  (shape_of_written clear one).unique clear (shape_of_written clear two)

theorem Shape.longer (clear : usage.Clear) {chars : List Char} {found : Found σ} (shape : Shape usage chars found) :
    ∃ c others, chars = '-' :: c :: others := by
  cases shape with
  | cut cut sole =>
    obtain ⟨c,others,rfl⟩ := sole.longer clear
    rcases cut_cases chars with ⟨_,whole⟩ | ⟨front,behind,rfl,_,whole⟩
    · rw [whole] at cut
      exact ⟨c,others,congrArg Prod.fst cut⟩
    · rw [whole] at cut
      obtain ⟨rfl,_⟩ := Prod.mk.inj cut
      exact ⟨c,others ++ '=' :: behind,rfl⟩
  | joined => exact ⟨_,_,rfl⟩

theorem not_written_of_word (clear : usage.Clear) {text : String} (word : Word usage text) (found : Found σ) :
    ¬ Written usage text.toList found := by
  intro written
  obtain ⟨c,others,spelled⟩ := (shape_of_written clear written).longer clear
  cases word with
  | plain free =>
    rw [spelled] at free
    exact free rfl
  | dash single =>
    rw [spelled] at single
    cases single
  | odd other _ => exact other found written

theorem Bundle.unique (clear : usage.Clear) {choice : Choice σ} {short : Bool} {joined : Option (List Char)}
    {acts others : List (Choice σ × Option String)} {last final : Option (Choice σ)}
    (one : Bundle usage choice short joined acts last) (two : Bundle usage choice short joined others final) :
    acts = others ∧ last = final := by
  induction one generalizing others final with
  | switch plain =>
    cases two with
    | switch => exact ⟨rfl,rfl⟩
    | awaits takes =>
      rw [plain] at takes
      cases takes
  | awaits takes =>
    cases two with
    | switch plain =>
      rw [plain] at takes
      cases takes
    | awaits => exact ⟨rfl,rfl⟩
  | joined takes =>
    cases two with
    | joined => exact ⟨rfl,rfl⟩
    | more plain =>
      rw [plain] at takes
      cases takes
  | more plain known _ ih =>
    cases two with
    | joined takes =>
      rw [plain] at takes
      cases takes
    | more _ again behind =>
      cases clear.single _ known _ again rfl
      obtain ⟨rfl,rfl⟩ := ih behind
      exact ⟨rfl,rfl⟩

theorem Line.unique (clear : usage.Clear) {arguments : List String} {items others : List (Item σ)}
    (one : Line usage arguments items) (two : Line usage arguments others) : items = others := by
  induction one generalizing others with
  | nil =>
    cases two
    rfl
  | behind texts =>
    cases two with
    | behind => rfl
    | word other | option other | valued other => exact absurd rfl other
  | word other word _ ih =>
    cases two with
    | behind => exact absurd rfl other
    | word _ _ rest => rw [ih rest]
    | option _ written | valued _ written => exact (not_written_of_word clear word _ written).elim
  | option other written bundle _ ih =>
    cases two with
    | behind => exact absurd rfl other
    | word _ word => exact (not_written_of_word clear word _ written).elim
    | option _ again bundled rest =>
      cases written.unique clear again
      rw [(bundle.unique clear bundled).1,ih rest]
    | valued _ again bundled =>
      cases written.unique clear again
      cases (bundle.unique clear bundled).2
  | valued other written bundle _ _ _ ih =>
    cases two with
    | behind => exact absurd rfl other
    | word _ word => exact (not_written_of_word clear word _ written).elim
    | option _ again bundled =>
      cases written.unique clear again
      cases (bundle.unique clear bundled).2
    | valued _ again bundled _ _ rest =>
      cases written.unique clear again
      obtain ⟨rfl,same⟩ := bundle.unique clear bundled
      cases same
      rw [ih rest]

end PascalCheck.CommandLine.Usage
