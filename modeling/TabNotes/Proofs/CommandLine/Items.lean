import TabNotes.CommandLine.Run
import TabNotes.Proofs.Runs
import TabNotes.Proofs.Text.Search
import TabNotes.Proofs.CommandLine.Arguments

/-! # What arguments say

Arguments are read in items of one or two: an option and the argument after it are one item, however
that argument looks, and so is an option with a value after an equals sign.  What arguments come to
depends on the items alone (`scan_eq_foldlM`), and of items that are accepted, on the words, the
last value of each option and the switches (`Arguments.views_foldlM`). -/

namespace TabNotes.CommandLine

open TabNotes.Text

/-- An option that takes no value. -/
inductive Switch where
  | verbose
  | obsidian
deriving DecidableEq

/-- One thing that arguments say. -/
inductive Item where
  | value (which : ValueOption) (value : String)
  | switch (which : Switch)
  | word (s : String)
  | refused (cause : Refusal)
deriving DecidableEq

/-- What arguments say, one thing after the other, up to the first one that is refused. -/
def items : List String → List Item
  | [] => []
  | argument :: arguments =>
    match Argument.of argument, arguments with
    | .option _, [] => [.refused (.missingValue argument)]
    | .option which, value :: arguments => .value which value :: items arguments
    | .assignment which value, arguments => .value which value :: items arguments
    | .verbose, arguments => .switch .verbose :: items arguments
    | .obsidian, arguments => .switch .obsidian :: items arguments
    | .help, _ => [.refused .help]
    | .unknownOption, _ => [.refused (.unknownOption argument)]
    | .positional, arguments => .word argument :: items arguments

/-- Whether reading arguments ends at an option whose value is still to come. -/
def awaitsValue : List String → Bool
  | [] => false
  | argument :: arguments =>
    match Argument.of argument, arguments with
    | .option _, [] => true
    | .option _, _ :: arguments => awaitsValue arguments
    | .help, _ => false
    | .unknownOption, _ => false
    | _, arguments => awaitsValue arguments

namespace Item

def word? : Item → Option String
  | word s => some s
  | _ => none

/-- The value of an option, if an item gives one. -/
def valueFor? (which : ValueOption) : Item → Option String
  | value other v => if other = which then some v else none
  | _ => none

end Item

/-- The arguments that are no options, in their order. -/
def positionals (arguments : List String) : List String :=
  (items arguments).filterMap Item.word?

/-- The last value of an option. -/
def lastValue (which : ValueOption) (arguments : List String) : Option String :=
  ((items arguments).filterMap (Item.valueFor? which)).getLast?

/-- Whether a switch is among the arguments. -/
def hasSwitch (which : Switch) (arguments : List String) : Bool :=
  (items arguments).contains (.switch which)

namespace Arguments

/-- The value of an option. -/
def valueOf (a : Arguments) : ValueOption → Option String
  | .config => a.config
  | .template => a.template
  | .out => a.out
  | .now => a.now

/-- Whether a switch is on. -/
def isOn (a : Arguments) : Switch → Bool
  | .verbose => a.verbose
  | .obsidian => a.obsidian

/-- Adds what one item says. -/
def add (a : Arguments) : Item → Except Refusal Arguments
  | .value which value => .ok (a.set which value)
  | .switch .verbose => .ok { a with verbose := true }
  | .switch .obsidian => .ok { a with obsidian := true }
  | .word s => .ok { a with positional := a.positional ++ [s] }
  | .refused cause => .error cause

end Arguments

variable {a b : Arguments} {before after arguments : List String} {item : Item}

/-! ### Items -/

theorem Argument.of_flag (which : ValueOption) : Argument.of which.flag = .option which := by
  cases which <;> decide

theorem ValueOption.ofFlag?_flag (which : ValueOption) :
    ValueOption.ofFlag? which.flag = some which := by
  cases which <;> decide

theorem Argument.of_assignment (which : ValueOption) (value : String) :
    Argument.of (which.flag ++ "=" ++ value) = .assignment which value := by
  have hflag : '=' ∉ which.flag.toList := by cases which <;> decide
  have hother : ∀ s : String, '=' ∉ s.toList → (which.flag ++ "=" ++ value == s) = false := by
    intro s hs
    refine beq_false_of_ne ?_
    rintro rfl
    exact hs (by simp)
  have hoption : ValueOption.ofFlag? (which.flag ++ "=" ++ value) = none := by
    refine List.find?_eq_none.mpr fun option _ => ?_
    rw [Bool.beq_comm, hother option.flag (by cases option <;> decide)]
    simp
  have hcut : cutAtChar '=' (which.flag ++ "=" ++ value).toList =
      (which.flag.toList, some value.toList) := by
    rw [String.toList_append, String.toList_append, List.append_assoc]
    exact cutAtChar_append_cons hflag value.toList
  rw [Argument.of, hother "-v" (by decide), hother "--verbose" (by decide),
    hother "--obsidian" (by decide), hoption]
  simp only [Bool.or_false, Bool.false_eq_true, if_false]
  rw [Argument.ofAssignment, hcut]
  simp only [String.ofList_toList, ValueOption.ofFlag?_flag]

theorem items_option {argument value : String} {which : ValueOption}
    (h : Argument.of argument = .option which) (arguments : List String) :
    items (argument :: value :: arguments) = .value which value :: items arguments := by
  rw [items.eq_def]
  simp only [h]

theorem items_assignment {argument value : String} {which : ValueOption}
    (h : Argument.of argument = .assignment which value) (arguments : List String) :
    items (argument :: arguments) = .value which value :: items arguments := by
  rw [items.eq_def]
  simp only [h]

/-- Where no value is awaited, what follows matters for what it says alone. -/
theorem items_append_congr {after' : List String} (h : awaitsValue before = false)
    (hafter : items after = items after') : items (before ++ after) = items (before ++ after') := by
  fun_induction awaitsValue before with
  | case1 => exact hafter
  | case2 => cases h
  | case3 argument value arguments which hargument ih =>
      rw [List.cons_append, List.cons_append, List.cons_append, List.cons_append,
        items_option hargument, items_option hargument, ih h]
  | case4 argument arguments hargument
  | case5 argument arguments hargument =>
      rw [List.cons_append, List.cons_append, items.eq_def, items.eq_def]
      simp only [hargument]
  | case6 argument arguments hlast hmore hhelp hunknown ih =>
      rw [List.cons_append, List.cons_append, items.eq_def,
        items.eq_def (argument :: (arguments ++ after'))]
      cases hargument : Argument.of argument with
      | option which =>
          cases arguments with
          | nil => exact (hlast which hargument rfl).elim
          | cons value arguments => exact (hmore which value arguments hargument rfl).elim
      | help => exact (hhelp hargument).elim
      | unknownOption => exact (hunknown hargument).elim
      | assignment which value => simp only [hargument, ih h]
      | verbose => simp only [hargument, ih h]
      | obsidian => simp only [hargument, ih h]
      | positional => simp only [hargument, ih h]

theorem scan_eq_foldlM (a : Arguments) (arguments : List String) :
    scan a arguments = (items arguments).foldlM Arguments.add a := by
  fun_induction scan a arguments with
  | case1 a => rfl
  | case3 a argument which hargument value arguments ih =>
      rw [items_option hargument, ih]
      rfl
  | case4 a argument arguments which value hargument ih =>
      rw [items_assignment hargument, ih]
      rfl
  | case5 a argument arguments hargument ih
  | case6 a argument arguments hargument ih
  | case9 a argument arguments hargument ih =>
      rw [items.eq_def]
      simp only [hargument]
      rw [ih]
      rfl
  | case2 a argument which hargument
  | case7 a argument arguments hargument
  | case8 a argument arguments hargument =>
      rw [items.eq_def]
      simp only [hargument]
      rfl

/-! ### What the items come to -/

theorem Arguments.valueOf_set (a : Arguments) (which other : ValueOption) (value : String) :
    (a.set which value).valueOf other = if which = other then some value else a.valueOf other := by
  cases which <;> cases other <;> rfl

theorem Arguments.positional_set (a : Arguments) (which : ValueOption) (value : String) :
    (a.set which value).positional = a.positional := by
  cases which <;> rfl

theorem Arguments.isOn_set (a : Arguments) (which : ValueOption) (value : String)
    (switch : Switch) :
    (a.set which value).isOn switch = a.isOn switch := by
  cases which <;> cases switch <;> rfl

theorem Arguments.eq_of_views (hpositional : a.positional = b.positional)
    (hvalue : ∀ which, a.valueOf which = b.valueOf which)
    (hswitch : ∀ switch, a.isOn switch = b.isOn switch) : a = b := by
  obtain ⟨positional, config, template, out, now, obsidian, verbose⟩ := a
  obtain ⟨positional', config', template', out', now', obsidian', verbose'⟩ := b
  obtain rfl : positional = positional' := hpositional
  obtain rfl : config = config' := hvalue .config
  obtain rfl : template = template' := hvalue .template
  obtain rfl : out = out' := hvalue .out
  obtain rfl : now = now' := hvalue .now
  obtain rfl : obsidian = obsidian' := hswitch .obsidian
  obtain rfl : verbose = verbose' := hswitch .verbose
  rfl

/-- What an accepted item adds to each view of the result. -/
theorem Arguments.views_add (h : a.add item = .ok b) :
    b.positional = a.positional ++ item.word?.toList ∧
      (∀ which, b.valueOf which = (item.valueFor? which).or (a.valueOf which)) ∧
        ∀ switch, b.isOn switch = (a.isOn switch || item == .switch switch) := by
  cases item with
  | value which value =>
      cases h
      refine ⟨?_, fun other => ?_, fun switch => ?_⟩
      · simp [positional_set, Item.word?]
      · rw [valueOf_set, Item.valueFor?]
        split <;> rfl
      · simp [isOn_set]
  | switch which =>
      cases which <;> cases h <;> refine ⟨?_, fun other => ?_, fun switch => ?_⟩
      · simp [Item.word?]
      · cases other <;> rfl
      · cases switch <;> simp [isOn]
      · simp [Item.word?]
      · cases other <;> rfl
      · cases switch <;> simp [isOn]
  | word s =>
      cases h
      refine ⟨rfl, fun other => ?_, fun switch => ?_⟩
      · cases other <;> rfl
      · cases switch <;> simp [isOn]
  | refused cause => cases h

theorem Arguments.views_foldlM {said : List Item} (h : said.foldlM Arguments.add a = .ok b) :
    b.positional = a.positional ++ said.filterMap Item.word? ∧
      (∀ which, b.valueOf which =
        (said.filterMap (Item.valueFor? which)).getLast?.or (a.valueOf which)) ∧
        ∀ switch, b.isOn switch = (a.isOn switch || said.contains (.switch switch)) := by
  induction said generalizing a with
  | nil =>
      cases h
      exact ⟨by simp, fun which => by simp, fun switch => by simp⟩
  | cons item said ih =>
      rw [List.foldlM_cons] at h
      obtain ⟨c, hadd, h⟩ := bind_eq_ok_iff.mp h
      obtain ⟨hpositional, hvalue, hswitch⟩ := Arguments.views_add hadd
      obtain ⟨hpositional', hvalue', hswitch'⟩ := ih h
      refine ⟨?_, fun which => ?_, fun switch => ?_⟩
      · rw [hpositional', hpositional, List.append_assoc]
        cases hword : item.word? <;> simp [hword]
      · rw [hvalue', hvalue, List.filterMap_cons]
        cases hgiven : item.valueFor? which with
        | none => rfl
        | some value => simp [List.getLast?_cons]
      · rw [hswitch', hswitch, List.contains_cons, Bool.or_assoc, Bool.beq_comm]

/-! ### Spelling and order -/

/-- Arguments that say the same come to the same. -/
theorem readArguments_congr_items (s : Surroundings) {arguments' : List String}
    (h : items arguments = items arguments') :
    readArguments s arguments = readArguments s arguments' := by
  rw [readArguments, readArguments, parse, parse, scan_eq_foldlM, scan_eq_foldlM, h]

/-- An option says the same with its value in an argument of its own and after an equals sign. -/
theorem items_respelled (which : ValueOption) (value : String) (h : awaitsValue before = false) :
    items (before ++ which.flag :: value :: after) =
      items (before ++ (which.flag ++ "=" ++ value) :: after) := by
  refine items_append_congr h ?_
  rw [items_option (Argument.of_flag which), items_assignment (Argument.of_assignment which value)]

/-- How the value of an option is written and how arguments are interleaved makes no difference.

An option with the argument after it can be exchanged for one argument with an equals sign, and
back: the same arguments are accepted, and a refusal is the same, with its wording.  An option is
read as one only where no value is awaited; elsewhere it is itself a value.  Two lists of arguments
that are accepted come to the same if they have the same words in the same order, the same last
value of each option and the same switches. -/
theorem readArguments_items (s : Surroundings) :
    (∀ (before : List String) (which : ValueOption) (value : String) (after : List String),
      awaitsValue before = false →
        readArguments s (before ++ which.flag :: value :: after) =
          readArguments s (before ++ (which.flag ++ "=" ++ value) :: after)) ∧
      ∀ (arguments arguments' : List String) (a a' : Arguments),
        readArguments s arguments = .ok a → readArguments s arguments' = .ok a' →
          positionals arguments = positionals arguments' →
            (∀ which, lastValue which arguments = lastValue which arguments') →
              (∀ switch, hasSwitch switch arguments = hasSwitch switch arguments') → a = a' := by
  refine ⟨fun before which value after h => ?_, fun arguments arguments' a a' h h' => ?_⟩
  · exact readArguments_congr_items s (items_respelled which value h)
  · intro hpositional hvalue hswitch
    obtain ⟨hscan, -⟩ := readArguments_eq_ok_iff.mp h
    obtain ⟨hscan', -⟩ := readArguments_eq_ok_iff.mp h'
    rw [scan_eq_foldlM] at hscan hscan'
    obtain ⟨hwords, hvalues, hswitches⟩ := Arguments.views_foldlM hscan
    obtain ⟨hwords', hvalues', hswitches'⟩ := Arguments.views_foldlM hscan'
    refine Arguments.eq_of_views ?_ (fun which => ?_) fun switch => ?_
    · rw [hwords, hwords']
      exact congrArg _ hpositional
    · rw [hvalues, hvalues']
      exact congrArg (Option.or · _) (hvalue which)
    · rw [hswitches, hswitches']
      exact congrArg _ (hswitch switch)

/-- A value that looks like an option, and two orders of the same arguments. -/
theorem readArguments_items_options :
    let s : Surroundings :=
      { Surroundings.bare [] ⟨0, some 0, by decide⟩ with environment := [("TABSIDIAN_VERBOSE", "no")] }
    readArguments s ["--out", "--now", "--template", "-v=1", "--bogus"] =
        readArguments s ["--out", "--now", "--template=-v=1", "--bogus"] ∧
      ∃ a, readArguments s ["export", "--out=a", "-v", "--out", "b", "tabs.json"] = .ok a ∧
        readArguments s ["--out=b", "export", "--verbose", "tabs.json", "-v"] = .ok a := by
  intro s
  obtain ⟨hspelling, horder⟩ := readArguments_items s
  let read : Arguments := ⟨["export", "tabs.json"], none, none, some "b", none, false, true⟩
  have hread : readArguments s ["export", "--out=a", "-v", "--out", "b", "tabs.json"] =
      .ok read := by
    decide +kernel
  obtain ⟨a, hread'⟩ :
      ∃ a, readArguments s ["--out=b", "export", "--verbose", "tabs.json", "-v"] = .ok a :=
    ⟨read, by decide +kernel⟩
  have ha : read = a :=
    horder _ _ _ a hread hread' (by decide +kernel)
      (fun which => by cases which <;> decide +kernel)
      fun switch => by cases switch <;> decide +kernel
  refine ⟨hspelling ["--out", "--now"] .template "-v=1" ["--bogus"] (by decide +kernel), a, ?_,
    hread'⟩
  rw [hread, ha]

end TabNotes.CommandLine
