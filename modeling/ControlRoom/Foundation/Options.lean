/-
  ControlRoom.Foundation.Options
  ──────────────────────────────
  **COMMAND LINES — the general layer.**

  A program knows which of its options take a value.  Whatever stands behind
  such an option is its value, also if it looks like an option.

    • `spell` — the words of some options,
    • `readOptions` — the options in some words,
    • `readOptions_spell` — what is spelled is read back,
    • `valueOf` — the value that an option is given.

  Nothing here mentions a particular program.
-/
import Mathlib.Data.List.Basic

namespace Foundation

/-- An option on a command line, by itself or with a value. -/
inductive CommandOption where
  | flag (name : String)
  | valued (name value : String)
  deriving DecidableEq, Repr

namespace CommandOption

def words : CommandOption → List String
  | flag name => [name]
  | valued name value => [name, value]

/-- The words of some options. -/
def spell (os : List CommandOption) : List String := os.flatMap words

/-- What a program reads: `takes` says of an option that it knows whether it takes a value. -/
def readOptions (takes : String → Option Bool) : List String → Option (List CommandOption)
  | [] => some []
  | [word] =>
      match takes word with
      | some false => some [flag word]
      | _ => none
  | word :: value :: rest =>
      match takes word with
      | some false => (readOptions takes (value :: rest)).map (flag word :: ·)
      | some true => (readOptions takes rest).map (valued word value :: ·)
      | none => none

/-- The program knows the option. -/
def Known (takes : String → Option Bool) : CommandOption → Prop
  | flag name => takes name = some false
  | valued name _ => takes name = some true

instance (takes : String → Option Bool) : DecidablePred (Known takes) := fun o =>
  match o with
  | flag name => inferInstanceAs (Decidable (takes name = some false))
  | valued name _ => inferInstanceAs (Decidable (takes name = some true))

variable {takes : String → Option Bool}

theorem readOptions_flag {name : String} (h : takes name = some false) (rest : List String) :
    readOptions takes (name :: rest) = (readOptions takes rest).map (flag name :: ·) := by
  cases rest with
  | nil => simp only [readOptions, h, Option.map_some]
  | cons value rest => simp only [readOptions, h]

/-- **What is spelled is read back**, whatever the values are. -/
theorem readOptions_spell {os : List CommandOption} (h : ∀ o ∈ os, o.Known takes) :
    readOptions takes (spell os) = some os := by
  induction os with
  | nil => rfl
  | cons o os ih =>
      have hrest := ih fun o' ho' => h o' (List.mem_cons_of_mem o ho')
      have ho : o.Known takes := h o List.mem_cons_self
      cases o with
      | flag name =>
          show readOptions takes (name :: spell os) = _
          rw [readOptions_flag ho, hrest]
          rfl
      | valued name value =>
          have hname : takes name = some true := ho
          show readOptions takes (name :: value :: spell os) = _
          simp only [readOptions, hname, hrest, Option.map_some]

/-- The value of an option, if it is this one. -/
def valueOf (name : String) : CommandOption → Option String
  | valued name' value => if name' = name then some value else none
  | flag _ => none

/-- The value that an option is given first. -/
def lookup (name : String) (os : List CommandOption) : Option String :=
  os.findSome? (valueOf name)

@[simp] theorem spell_append (os os' : List CommandOption) :
    spell (os ++ os') = spell os ++ spell os' := List.flatMap_append

@[simp] theorem lookup_append (name : String) (os os' : List CommandOption) :
    lookup name (os ++ os') = (lookup name os).or (lookup name os') := List.findSome?_append

@[simp] theorem lookup_nil (name : String) : lookup name [] = none := rfl

@[simp] theorem lookup_flag (name name' : String) (os : List CommandOption) :
    lookup name (flag name' :: os) = lookup name os := rfl

@[simp] theorem lookup_valued (name name' value : String) (os : List CommandOption) :
    lookup name (valued name' value :: os)
      = if name' = name then some value else lookup name os := by
  unfold lookup
  rw [List.findSome?_cons]
  by_cases h : name' = name <;> simp [valueOf, h]

end CommandOption

end Foundation
