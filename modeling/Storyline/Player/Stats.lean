import Storyline.Json.Record
import Storyline.Text.Blank
import Storyline.Text.LowerCase

/-! The numeric stats of a player. -/
namespace Storyline

inductive Stat where
  | health
  | mana
  | experience
  | level
  | gold
  deriving DecidableEq

def Stat.ofTag? (tag : String) : Option Stat :=
  match Text.lower (Text.trim tag) with
  | "health" | "hp" => some .health
  | "mana" | "mp" => some .mana
  | "experience" | "xp" => some .experience
  | "level" => some .level
  | "gold" => some .gold
  | _ => none

@[ext] structure Stats where
  health : Int := 100
  mana : Int := 100
  experience : Int := 0
  level : Int := 1
  gold : Int := 50
  deriving DecidableEq

namespace Stats

def get (s : Stats) : Stat → Int
  | .health => s.health
  | .mana => s.mana
  | .experience => s.experience
  | .level => s.level
  | .gold => s.gold

def set (s : Stats) (stat : Stat) (n : Int) : Stats :=
  match stat with
  | .health => { s with health := n }
  | .mana => { s with mana := n }
  | .experience => { s with experience := n }
  | .level => { s with level := n }
  | .gold => { s with gold := n }

theorem get_set (s : Stats) (a b : Stat) (n : Int) :
    (s.set a n).get b = if b = a then n else s.get b := by
  cases a <;> cases b <;> rfl

def named? (s : Stats) (name : String) : Option Int := (Stat.ofTag? name).map s.get

def toJson (s : Stats) : Json :=
  .object [
    ("health", .integer s.health),
    ("mana", .integer s.mana),
    ("experience", .integer s.experience),
    ("level", .integer s.level),
    ("gold", .integer s.gold)]

def ofJson? (j : Json) : Option Stats := do
  let row ← j.row? ["health", "mana", "experience", "level", "gold"]
  return {
    health := ← row.required "health" Json.integer?
    mana := ← row.required "mana" Json.integer?
    experience := ← row.required "experience" Json.integer?
    level := ← row.required "level" Json.integer?
    gold := ← row.required "gold" Json.integer? }

end Stats

end Storyline
