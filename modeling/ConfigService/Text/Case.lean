/-!
# Case — lower case of ASCII letters

Names of settings, headers and formats are compared without regard to the case of their letters, and those letters are
ASCII.
-/
namespace ConfigService

/-- The lower case of an ASCII letter; other characters are left. -/
def lowerAscii (c : Char) : Char := if 65 ≤ c.toNat ∧ c.toNat ≤ 90 then Char.ofNat (c.toNat + 32) else c

end ConfigService
