/-! Letters in lower case. Only the letters `A` to `Z` are changed. -/

namespace EdgeAgent

/-- A character in lower case. -/
def lowerChar (c : Char) : Char :=
  if 65 ≤ c.toNat ∧ c.toNat ≤ 90 then Char.ofNat (c.toNat + 32) else c

def lowerChars (s : List Char) : List Char :=
  s.map lowerChar

end EdgeAgent
