import TokenStream.CharSet

/-! White space, line breaks and tabs included. -/
namespace TokenStream.CharSet

/-- The ranges of white space in Unicode 14. -/
def blankRanges : List (Nat × Nat) :=
  [(0x9, 0xd), (0x1c, 0x20), (0x85, 0x85), (0xa0, 0xa0), (0x1680, 0x1680), (0x2000, 0x200a),
    (0x2028, 0x2029), (0x202f, 0x202f), (0x205f, 0x205f), (0x3000, 0x3000)]

def blank : CharSet := ofRanges blankRanges

end TokenStream.CharSet
