set_option autoImplicit false

/-! # Masks for codes in log lines

Device codes and user codes are secrets while they are pending, so a log line shows only a part of
them. A masked id shows its first and last four characters, and nothing when it has at most eight.
A masked user code shows its first group and the length of the rest. -/

namespace DeviceGrant.Mask

/-- What is shown in place of a text too short to be shown in part. -/
def hidden : String := "***MASKED***"

/-- The characters that a masked id shows: the first four, an ellipsis and the last four. -/
def idChars (cs : List Char) : List Char :=
  cs.take 4 ++ ['.', '.', '.'] ++ cs.drop (cs.length - 4)

/-- A masked id. -/
def id (s : String) : String :=
  if s.toList.length ≤ 8 then hidden else String.ofList (idChars s.toList)

/-- The characters that a masked user code shows: all up to the first hyphen and a star for each
one after it, or without a hyphen the first two and a star for each further one. -/
def userCodeChars (cs : List Char) : List Char :=
  let head := cs.takeWhile (· ≠ '-')
  if head.length < cs.length then
    head ++ '-' :: List.replicate (cs.length - head.length - 1) '*'
  else cs.take 2 ++ List.replicate (cs.length - 2) '*'

/-- A masked user code. -/
def userCode (s : String) : String :=
  let cs := s.toList
  if cs.isEmpty then "***EMPTY***"
  else if cs.contains '-' || 2 < cs.length then String.ofList (userCodeChars cs)
  else hidden

end DeviceGrant.Mask
