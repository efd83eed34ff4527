import MessageTemplate.Command.Run

/-!
# The order and the spelling of options

An option is spelled with its letter or its word, and its value in an argument of its own, after an
equals sign, or right after the letter. How it is spelled makes no difference, and neither does where
it stands among options of other kinds. Help, version and an unknown option end the reading, whatever
follows them.

* `Switch.letter`, `Switch.word`: how an option is called. `Switch.ofLetter?_eq_none`,
  `Switch.ofWord?_eq_none`: nothing is found by any other letter or word.
* `Item.Spelled`: how an item is spelled. `Item.ofArguments_spelled`: it is read as this item.
* `Item.Spells`: how items are spelled one after another. `Item.ofArguments_spells`: they are read in
  this order, up to the first that decides.
* `Request.exists_extend_append`, `Request.ofItems_eq`: items that do not decide only add to the options.
* `Options.ofItems_exchange`: items of different kinds change places.
* `Item.leads_respond`: the first item that decides leads to the outcome.
* **`respond_spells`**: order and spelling make no difference.
-/

namespace MessageTemplate

/-! ## The names of options -/

namespace Switch

/-- The letter after one dash. -/
def letter : Switch → Char
  | field .property => 'p'
  | flag .tokens => 't'
  | field .config => 'c'
  | flag .debug => 'd'
  | flag .help => 'h'
  | flag .version => 'V'

/-- The word after two dashes. -/
def word : Switch → Text
  | field .property => "property".toList
  | flag .tokens => "tokens".toList
  | field .config => "config".toList
  | flag .debug => "debug".toList
  | flag .help => "help".toList
  | flag .version => "version".toList

theorem letter_ne_dash (s : Switch) : s.letter ≠ '-' := by
  rcases s with f | f <;> cases f <;> decide

theorem equals_notMem_word (s : Switch) : '=' ∉ s.word := by
  rcases s with f | f <;> cases f <;> decide

theorem ofLetter?_letter (s : Switch) : ofLetter? s.letter = some s := by
  rcases s with f | f <;> cases f <;> rfl

theorem ofLetter?_eq_none {c : Char} (h : ∀ s : Switch, s.letter ≠ c) : ofLetter? c = none := by
  unfold ofLetter?
  split
  · exact absurd rfl (h (field .property))
  · exact absurd rfl (h (flag .tokens))
  · exact absurd rfl (h (field .config))
  · exact absurd rfl (h (flag .debug))
  · exact absurd rfl (h (flag .help))
  · exact absurd rfl (h (flag .version))
  · rfl

theorem ofWord?_eq_none {w : Text} (h : ∀ s : Switch, s.word ≠ w) : ofWord? w = none := by
  have hwords : ∀ p ∈ words, p.1 = p.2.word := by decide
  rw [ofWord?, List.lookup_eq_none_iff]
  intro p hp
  rw [hwords p hp, bne_iff_ne]
  exact (h p.2).symm

end Switch

/-! ## Items -/

namespace Item

/-- How an item is spelled. -/
inductive Spelled : Item → List Text → Prop
  | positional {t : Text} (plain : t = ['-'] ∨ t.head? ≠ some '-') : Spelled (.positional t) [t]
  | letter (f : Flag) : Spelled (.flag f) [['-', (Switch.flag f).letter]]
  | word (f : Flag) : Spelled (.flag f) ['-' :: '-' :: (Switch.flag f).word]
  | letterApart (f : Field) (value : Text) :
      Spelled (.field f value) [['-', (Switch.field f).letter], value]
  | wordApart (f : Field) (value : Text) :
      Spelled (.field f value) ['-' :: '-' :: (Switch.field f).word, value]
  | letterEquals (f : Field) (value : Text) :
      Spelled (.field f value) ['-' :: (Switch.field f).letter :: '=' :: value]
  | wordEquals (f : Field) (value : Text) :
      Spelled (.field f value) ['-' :: '-' :: ((Switch.field f).word ++ '=' :: value)]
  /-- The value follows the letter at once. It cannot begin with an equals sign then. -/
  | letterJoined (f : Field) {value : Text} (ne_nil : value ≠ []) (plain : value.head? ≠ some '=') :
      Spelled (.field f value) ['-' :: (Switch.field f).letter :: value]
  /-- No option has this letter, whatever stands after it. -/
  | unknownLetter {c : Char} (after : Text) (noDash : c ≠ '-') (unknown : ∀ s : Switch, s.letter ≠ c) :
      Spelled (.fault (.unknown ['-', c])) ['-' :: c :: after]
  /-- No option has this word, with a value or without one. -/
  | unknownWord {w : Text} (value : Option Text) (plain : '=' ∉ w) (unknown : ∀ s : Switch, s.word ≠ w)
      (given : w ≠ [] ∨ value.isSome = true) :
      Spelled (.fault (.unknown ('-' :: '-' :: w))) ['-' :: '-' :: (w ++ value.elim [] ('=' :: ·))]

/-- The item ends the reading: it asks for help or for the version, or it is a fault. -/
def decides : Item → Bool
  | flag f => endsReading f
  | fault _ => true
  | _ => false

section Reading

variable {a : Text} {i : Item}

theorem ofArguments_of_more (h : ofArgument a = ([i], .more)) (rest : List Text) :
    ofArguments (a :: rest) = i :: ofArguments rest := by
  have hdashes : a ≠ ['-', '-'] := by
    rintro rfl
    cases h
  rw [ofArguments.eq_2 _ _ _ h, if_neg hdashes, List.singleton_append]

theorem ofArguments_of_value {f : Field} {option : Text} (h : ofArgument a = ([], .value f option))
    (value : Text) (rest : List Text) :
    ofArguments (a :: value :: rest) = field f value :: ofArguments rest := by
  have hdashes : a ≠ ['-', '-'] := by
    rintro rfl
    cases h
  rw [ofArguments.eq_4 _ _ _ _ _ _ h, if_neg hdashes, List.nil_append]

theorem ofArguments_of_stop (h : ofArgument a = ([i], .stop)) (hdashes : a ≠ ['-', '-'])
    (rest : List Text) : ofArguments (a :: rest) = [i] := by
  rw [ofArguments.eq_5 _ _ _ h, if_neg hdashes]

end Reading

theorem ofArgument_plain {t : Text} (plain : t = ['-'] ∨ t.head? ≠ some '-') :
    ofArgument t = ([positional t], .more) := by
  unfold ofArgument
  split
  · simp at plain
  · simp at plain
  · rfl

theorem ofArgument_letter {c : Char} (h : c ≠ '-') (cs : Text) :
    ofArgument ('-' :: c :: cs) = ofLetters (c :: cs) := by
  rw [ofArgument]
  exact h

theorem ofLetters_joined (f : Field) {value : Text} (ne_nil : value ≠ [])
    (plain : value.head? ≠ some '=') :
    ofLetters ((Switch.field f).letter :: value) = ([field f value], .more) := by
  obtain ⟨c, cs, rfl⟩ := List.exists_cons_of_ne_nil ne_nil
  have hc : c ≠ '=' := fun h => plain (congrArg some h)
  unfold ofLetters
  rw [Switch.ofLetter?_letter]
  simp [hc]

theorem ofLetters_unknown {c : Char} (h : ∀ s : Switch, s.letter ≠ c) (after : Text) :
    ofLetters (c :: after) = ([fault (.unknown ['-', c])], .stop) := by
  unfold ofLetters
  rw [Switch.ofLetter?_eq_none h]

theorem ofArgument_word {w : Text} (h : '=' ∉ w) (value : Option Text) :
    ofArgument ('-' :: '-' :: (w ++ value.elim [] ('=' :: ·))) = ofWord w value := by
  rw [ofArgument, Text.splitFirst_append_elim h]

theorem ofWord_unknown {w : Text} (h : ∀ s : Switch, s.word ≠ w) (value : Option Text) :
    ofWord w value = ([fault (.unknown ('-' :: '-' :: w))], .stop) := by
  unfold ofWord
  rw [Switch.ofWord?_eq_none h]

/-- **An item is read as it is spelled**, and nothing after an item that decides. -/
theorem ofArguments_spelled {i : Item} {arguments : List Text} (h : Spelled i arguments)
    (rest : List Text) :
    ofArguments (arguments ++ rest) = i :: if i.decides then [] else ofArguments rest := by
  cases h with
  | positional plain => exact ofArguments_of_more (ofArgument_plain plain) rest
  | letter f | word f =>
    cases f with
    | tokens | debug => exact ofArguments_of_more rfl rest
    | help | version => exact ofArguments_of_stop rfl (by decide) rest
  | letterApart f value | wordApart f value =>
    cases f with
    | property | config => exact ofArguments_of_value rfl value rest
  | letterEquals f value =>
    cases f with
    | property | config => exact ofArguments_of_more rfl rest
  | wordEquals f value =>
    have hread := ofArgument_word (Switch.field f).equals_notMem_word (some value)
    cases f with
    | property | config => exact ofArguments_of_more hread rest
  | letterJoined f ne_nil plain =>
    have hread := ofArgument_letter (Switch.field f).letter_ne_dash
    exact ofArguments_of_more ((hread _).trans (ofLetters_joined f ne_nil plain)) rest
  | unknownLetter after noDash unknown =>
    have hread := (ofArgument_letter noDash after).trans (ofLetters_unknown unknown after)
    exact ofArguments_of_stop hread (by simp [noDash]) rest
  | unknownWord value plain unknown given =>
    have hread := (ofArgument_word plain value).trans (ofWord_unknown unknown value)
    refine ofArguments_of_stop hread ?_ rest
    cases value <;> simp_all

/-! ## Items one after another -/

/-- How items are spelled one after another. -/
inductive Spells : List Item → List Text → Prop
  | nil : Spells [] []
  | cons {i : Item} {items : List Item} {as arguments : List Text} :
      Spelled i as → Spells items arguments → Spells (i :: items) (as ++ arguments)

theorem Spells.exists_spelled {items : List Item} {arguments : List Text}
    (h : Spells items arguments) {i : Item} (hi : i ∈ items) : ∃ as, Spelled i as := by
  induction h with
  | nil => cases hi
  | cons hspelled _ ih =>
    rcases List.mem_cons.1 hi with rfl | hi
    · exact ⟨_, hspelled⟩
    · exact ih hi

/-- **Items are read one after another** if none of them decides. -/
theorem ofArguments_spells {items : List Item} {arguments : List Text}
    (h : Spells items arguments) (given : ∀ i ∈ items, i.decides = false) (rest : List Text) :
    ofArguments (arguments ++ rest) = items ++ ofArguments rest := by
  induction h with
  | nil => rfl
  | cons hspelled _ ih =>
    obtain ⟨hi, hitems⟩ := List.forall_mem_cons.1 given
    rw [List.append_assoc, ofArguments_spelled hspelled, if_neg (by simp [hi]), ih hitems,
      List.cons_append]

/-- Nothing is read after the first item that decides. -/
theorem ofArguments_spells_of_find? {items : List Item} {arguments : List Text}
    (h : Spells items arguments) {i : Item} (first : items.find? decides = some i)
    (rest : List Text) :
    ∃ before, (∀ j ∈ before, j.decides = false) ∧
      ofArguments (arguments ++ rest) = before ++ [i] := by
  induction h with
  | nil => cases first
  | @cons j items as arguments hspelled _ ih =>
    rw [List.append_assoc, ofArguments_spelled hspelled]
    cases hj : j.decides with
    | true =>
      rw [List.find?_cons_of_pos hj, Option.some.injEq] at first
      exact ⟨[], nofun, by rw [first]; rfl⟩
    | false =>
      rw [List.find?_cons_of_neg (by simp [hj])] at first
      obtain ⟨before, hbefore, hread⟩ := ih first
      exact ⟨j :: before, List.forall_mem_cons.2 ⟨hj, hbefore⟩, congrArg (j :: ·) hread⟩

/-- After two dashes everything is positional. -/
theorem ofArguments_rest (rest : Option (List Text)) :
    ofArguments (rest.elim [] (['-', '-'] :: ·)) = (rest.getD []).map positional := by
  cases rest with
  | none => rfl
  | some rest =>
    have hread : ofArgument ['-', '-'] = ([fault (.unknown ['-', '-'])], .stop) := rfl
    rw [Option.elim_some, ofArguments.eq_5 _ _ _ hread, if_pos rfl, Option.getD_some]

/-- What is told apart in items: of these, each goes its own way. -/
inductive Kind where
  | positional
  | flag (f : Flag)
  | field (f : Field)
  | fault
  deriving Repr, DecidableEq

/-- The kind of an item, without the texts that are given with it. -/
def kind : Item → Kind
  | .positional _ => .positional
  | .flag f => .flag f
  | .field f _ => .field f
  | .fault _ => .fault

theorem positional?_eq_none {i : Item} (h : i.kind ≠ .positional) : i.positional? = none := by
  cases i with
  | positional t => exact absurd rfl h
  | flag | field | fault => rfl

theorem valueOf?_eq_none {i : Item} {f : Field} (h : i.kind ≠ .field f) : i.valueOf? f = none := by
  cases i with
  | positional | flag | fault => rfl
  | field g value => exact if_neg fun hg => h (congrArg Kind.field hg)

theorem kind_ne_or_kind_ne {a b : Item} (h : a.kind ≠ b.kind) (k : Kind) :
    a.kind ≠ k ∨ b.kind ≠ k := by
  by_cases ha : a.kind = k
  · exact .inr fun hb => h (ha.trans hb.symm)
  · exact .inl ha

end Item

namespace Request

/-- Items that do not decide only add to the options. -/
theorem exists_extend_append {items : List Item} (given : ∀ i ∈ items, i.decides = false)
    (o : Options) (more : List Item) : ∃ o', extend o (items ++ more) = extend o' more := by
  induction items generalizing o with
  | nil => exact ⟨o, rfl⟩
  | cons i items ih =>
    obtain ⟨hi, hitems⟩ := List.forall_mem_cons.1 given
    cases i with
    | positional t => exact ih hitems _
    | flag f =>
      cases f with
      | tokens | debug => exact ih hitems _
      | help | version => cases hi
    | field f value =>
      cases f with
      | property | config => exact ih hitems _
    | fault f => cases hi

theorem ofItems_eq {items : List Item} (given : ∀ i ∈ items, i.decides = false) :
    ofItems items = .ok (run (.ofItems items)) := by
  obtain ⟨o, ho⟩ := exists_extend_append given {} []
  rw [List.append_nil] at ho
  rw [← eq_ofItems_of_run ho, ofItems, ho, extend]

end Request

namespace Options

theorem filterMap_exchange {f : Item → Option Text} {a b : Item} (h : f a = none ∨ f b = none)
    (before after : List Item) :
    (before ++ a :: b :: after).filterMap f = (before ++ b :: a :: after).filterMap f := by
  rw [List.filterMap_append, List.filterMap_append]
  rcases h with h | h
  · rw [List.filterMap_cons_none h, List.filterMap_cons, List.filterMap_cons (a := b),
      List.filterMap_cons_none h]
  · rw [List.filterMap_cons, List.filterMap_cons_none h, List.filterMap_cons_none h,
      List.filterMap_cons]

/-- **Items of different kinds change places.** -/
theorem ofItems_exchange {a b : Item} (h : a.kind ≠ b.kind) (before after : List Item) :
    ofItems (before ++ a :: b :: after) = ofItems (before ++ b :: a :: after) := by
  have hpositional : a.positional? = none ∨ b.positional? = none :=
    (Item.kind_ne_or_kind_ne h _).imp Item.positional?_eq_none Item.positional?_eq_none
  have hvalue (f : Field) : a.valueOf? f = none ∨ b.valueOf? f = none :=
    (Item.kind_ne_or_kind_ne h _).imp Item.valueOf?_eq_none Item.valueOf?_eq_none
  have hcontains (i : Item) :
      (before ++ a :: b :: after).contains i = (before ++ b :: a :: after).contains i := by
    simp [Bool.or_left_comm]
  rw [ofItems, ofItems, filterMap_exchange hpositional, filterMap_exchange (hvalue _),
    filterMap_exchange (hvalue _), hcontains, hcontains]

theorem ofItems_append_positional (items : List Item) (rest : List Text) :
    ofItems (items ++ rest.map .positional) =
      { template := (items.filterMap Item.positional? ++ rest).head?
        properties := items.filterMap (Item.valueOf? .property)
        tokens := items.contains (.flag .tokens)
        config := (items.filterMap (Item.valueOf? .config)).getLast?
        debug := items.contains (.flag .debug) } := by
  have hpositional : (rest.map Item.positional).filterMap Item.positional? = rest := by
    rw [List.filterMap_map]
    exact List.filterMap_some
  have hvalue (f : Field) : (rest.map Item.positional).filterMap (Item.valueOf? f) = [] := by
    rw [List.filterMap_map, List.filterMap_eq_nil_iff]
    exact fun _ _ => rfl
  have hcontains (f : Flag) : (rest.map Item.positional).contains (.flag f) = false := by
    simp
  rw [ofItems]
  simp only [List.filterMap_append, hpositional, hvalue, List.append_nil, List.contains_append,
    hcontains, Bool.or_false]

end Options

/-! ## Command lines -/

/-- What an item that decides leads to. -/
inductive Item.Leads : Item → Outcome → Prop
  | help : Leads (.flag .help) ⟨0, helpText.toList, []⟩
  | version : Leads (.flag .version) ⟨0, versionText.toList, []⟩
  | unknown (option : Text) : Leads (.fault (.unknown option))
      ⟨1, [], ("Error: " ++ (Fault.unknown option).message ++
        "\nTry 'mtpl --help' for more information.\n").toList⟩

section

variable {items : List Item} {arguments : List Text} (spells : Item.Spells items arguments)
include spells

theorem Request.ofArguments_spells (given : ∀ i ∈ items, i.decides = false)
    (rest : Option (List Text)) :
    ofArguments (arguments ++ rest.elim [] (['-', '-'] :: ·)) =
      .ok (.run (.ofItems (items ++ (rest.getD []).map .positional))) := by
  rw [ofArguments, Item.ofArguments_spells spells given, Item.ofArguments_rest]
  refine ofItems_eq fun i hi => ?_
  rcases List.mem_append.1 hi with hi | hi
  · exact given i hi
  · obtain ⟨t, -, rfl⟩ := List.mem_map.1 hi
    rfl

theorem Item.leads_respond (env : Environment) {i : Item}
    (first : items.find? Item.decides = some i) (more : List Text) :
    i.Leads (respond (arguments ++ more) env) := by
  obtain ⟨before, given, hread⟩ := Item.ofArguments_spells_of_find? spells first more
  obtain ⟨o, ho⟩ := Request.exists_extend_append given {} [i]
  obtain ⟨as, hspelled⟩ := spells.exists_spelled (List.mem_of_find?_eq_some first)
  have hdecides := List.find?_some first
  rw [respond, Request.ofArguments, hread, Request.ofItems, ho]
  cases hspelled with
  | positional | letterApart | wordApart | letterEquals | wordEquals | letterJoined =>
    cases hdecides
  | unknownLetter | unknownWord => exact .unknown _
  | letter f | word f =>
    cases f with
    | tokens | debug => cases hdecides
    | help => exact .help
    | version => exact .version

/-- **The order and the spelling of options make no difference** beyond the kinds of the options. The
arguments that spell some items, with two dashes and more arguments behind them or without, ask for
the first positional argument as the template, all properties in order, the last settings file, and
the flags that occur. Another spelling asks for the same, and so do the items with two neighbours of
different kinds exchanged. If an item decides, the first of these leads to the outcome, whatever
follows. -/
theorem respond_spells (env : Environment) :
    ((∀ i ∈ items, i.decides = false) → ∀ rest : Option (List Text),
      Request.ofArguments (arguments ++ rest.elim [] (['-', '-'] :: ·)) = .ok (.run
        { template := (items.filterMap Item.positional? ++ rest.getD []).head?
          properties := items.filterMap (Item.valueOf? .property)
          tokens := items.contains (.flag .tokens)
          config := (items.filterMap (Item.valueOf? .config)).getLast?
          debug := items.contains (.flag .debug) }) ∧
      (∀ respelled, Item.Spells items respelled →
        respond (respelled ++ rest.elim [] (['-', '-'] :: ·)) env =
          respond (arguments ++ rest.elim [] (['-', '-'] :: ·)) env) ∧
      ∀ before a b after exchanged, items = before ++ a :: b :: after → a.kind ≠ b.kind →
        Item.Spells (before ++ b :: a :: after) exchanged →
        respond (exchanged ++ rest.elim [] (['-', '-'] :: ·)) env =
          respond (arguments ++ rest.elim [] (['-', '-'] :: ·)) env) ∧
      ∀ i, items.find? Item.decides = some i → ∀ more,
        i.Leads (respond (arguments ++ more) env) := by
  refine ⟨fun given rest => ?_, fun i first more => Item.leads_respond spells env first more⟩
  have hrequest := Request.ofArguments_spells spells given rest
  refine ⟨?_, fun respelled hrespelled => ?_, ?_⟩
  · rw [hrequest, Options.ofItems_append_positional]
  · rw [respond, respond, hrequest, Request.ofArguments_spells hrespelled given rest]
  · rintro before a b after exchanged rfl hkind hexchanged
    have hgiven : ∀ i ∈ before ++ b :: a :: after, i.decides = false := by
      intro i hi
      refine given i ?_
      simp only [List.mem_append, List.mem_cons] at hi ⊢
      rwa [or_left_comm (a := i = a)]
    have hsame := Options.ofItems_exchange hkind before (after ++ (rest.getD []).map .positional)
    rw [respond, respond, hrequest, Request.ofArguments_spells hexchanged hgiven rest]
    simp only [List.append_assoc, List.cons_append, hsame]

end

/-- A flag between other items, and values that look like options. -/
def Item.assorted : List Item :=
  [.field .property ['A', '=', '1'], .flag .debug, .positional ['-'], .field .config ['-', '-'],
    .field .property ['-', 'h']]

/-- The items with letters, each value in the same argument or in the next one. -/
def Item.assortedLetters : List Text :=
  [['-', 'p', 'A', '=', '1'], ['-', 'd'], ['-'], ['-', 'c'], ['-', '-'], ['-', 'p'], ['-', 'h']]

/-- The items with words, each value after an equals sign. -/
def Item.assortedWords : List Text :=
  ["--property=A=1".toList, "--debug".toList, ['-'], "--config=--".toList, "--property=-h".toList]

theorem Item.spells_assortedLetters : Spells assorted assortedLetters :=
  .cons (.letterJoined .property (by decide) (by decide)) <| .cons (.letter .debug) <|
    .cons (.positional (.inl rfl)) <| .cons (.letterApart .config ['-', '-']) <|
    .cons (.letterApart .property ['-', 'h']) .nil

theorem Item.spells_assortedWords : Spells assorted assortedWords :=
  .cons (.wordEquals .property ['A', '=', '1']) <| .cons (.word .debug) <|
    .cons (.positional (.inl rfl)) <| .cons (.wordEquals .config ['-', '-']) <|
    .cons (.wordEquals .property ['-', 'h']) .nil

/-- Two spellings, two neighbours exchanged, and help between a flag and an argument that is wrong. -/
theorem spells_assorted :
    (∀ i ∈ Item.assorted, i.decides = false) ∧
      Request.ofArguments (Item.assortedLetters ++ [['-', '-'], ['-', 't']]) = .ok (.run
        { template := some ['-']
          properties := [['A', '=', '1'], ['-', 'h']]
          config := some ['-', '-']
          debug := true }) ∧
      ∀ env,
        respond (Item.assortedWords ++ [['-', '-'], ['-', 't']]) env =
          respond (Item.assortedLetters ++ [['-', '-'], ['-', 't']]) env ∧
        respond ([['-', 'p', 'A', '=', '1'], ['-'], ['-', 'd'], ['-', 'c'], ['-', '-'], ['-', 'p'],
            ['-', 'h']] ++ [['-', '-'], ['-', 't']]) env =
          respond (Item.assortedLetters ++ [['-', '-'], ['-', 't']]) env ∧
        respond [['-', 't'], ['-', 'h'], ['-', 'd', '=']] env = ⟨0, helpText.toList, []⟩ := by
  have hgiven : ∀ i ∈ Item.assorted, i.decides = false := by decide
  have hexchanged : Item.Spells [.field .property ['A', '=', '1'], .positional ['-'], .flag .debug,
      .field .config ['-', '-'], .field .property ['-', 'h']] [['-', 'p', 'A', '=', '1'], ['-'],
        ['-', 'd'], ['-', 'c'], ['-', '-'], ['-', 'p'], ['-', 'h']] :=
    .cons (.letterJoined .property (by decide) (by decide)) <| .cons (.positional (.inl rfl)) <|
      .cons (.letter .debug) <| .cons (.letterApart .config ['-', '-']) <|
      .cons (.letterApart .property ['-', 'h']) .nil
  have hhelp : Item.Spells [.flag .tokens, .flag .help] [['-', 't'], ['-', 'h']] :=
    .cons (.letter .tokens) <| .cons (.letter .help) .nil
  have hspells (env : Environment) :=
    (respond_spells Item.spells_assortedLetters env).1 hgiven (some [['-', 't']])
  refine ⟨hgiven, (hspells { contents := fun _ => .error .notFound }).1, fun env => ?_⟩
  obtain ⟨-, hrespelled, hexchange⟩ := hspells env
  refine ⟨hrespelled _ Item.spells_assortedWords, ?_, ?_⟩
  · exact hexchange [_] _ _ _ _ rfl (by decide) hexchanged
  · have hleads := (respond_spells hhelp env).2 _ rfl [['-', 'd', '=']]
    generalize respond _ env = outcome at hleads ⊢
    cases hleads
    rfl

end MessageTemplate
