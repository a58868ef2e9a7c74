import Printworks.Dict

/-!
# Suffixes that make names unique

A name that is taken gets a suffix. Suffixes come from a supply that may hold any tokens, of which
some or all may be taken already. They are drawn one after the other until a name is free. A supply may
have too few tokens for the names that are taken; only then the suffix is a number instead.
-/

namespace Printworks

def suffixed (base token : String) : String := base ++ "_" ++ token

/-- Tokens for each name, and how many of them are drawn at most to find a free one. -/
structure SuffixSupply where
  token : String → Nat → String
  patience : List String → String → Nat → Nat

/-- A supply and how many tokens have been drawn for each name. -/
structure Suffixes where
  supply : SuffixSupply
  drawn : Dict Nat

namespace SuffixSupply

/-- The token of a number. -/
def numberToken (n : Nat) : String := String.ofList ('#' :: Nat.toDigits 10 (n + 1))

/-- The tokens `#1`, `#2` and so on, for each name by itself. -/
def numbered : SuffixSupply where
  token := fun _ n => numberToken n
  patience := fun taken _ _ => taken.length + 1

end SuffixSupply

namespace Suffixes

/-- Numbers, from the first one on. -/
def numbered : Suffixes := ⟨.numbered, ∅⟩

instance : Inhabited Suffixes := ⟨.numbered⟩

def count (s : Suffixes) (base : String) : Nat := (s.drawn.get? base).getD 0

def next (s : Suffixes) (base : String) : String :=
  suffixed base (s.supply.token base (s.count base))

def advance (s : Suffixes) (base : String) : Suffixes :=
  { s with drawn := s.drawn.insert base (s.count base + 1) }

/-- The first free name whose suffix is a number. -/
def numberedName (taken : List String) (base : String) : String :=
  let names := (List.range (taken.length + 1)).map (suffixed base <| SuffixSupply.numberToken ·)
  (names.find? (· ∉ taken)).getD base

/-- Draw until the name is free, at most as many times as given. -/
def drawUntilFree (taken : List String) (base : String) (draws : Nat) (s : Suffixes) :
    String × Suffixes :=
  match draws with
  | 0 => (numberedName taken base, s)
  | draws + 1 =>
    if s.next base ∈ taken then drawUntilFree taken base draws (s.advance base)
    else (s.next base, s.advance base)

/-- The name itself if it is free, and otherwise the first free one with a suffix. -/
def fresh (taken : List String) (base : String) (s : Suffixes) : String × Suffixes :=
  if base ∈ taken then drawUntilFree taken base (s.supply.patience taken base (s.count base)) s
  else (base, s)

end Suffixes

end Printworks
