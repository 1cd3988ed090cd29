namespace InfoFlow.Text.Utf8

/-- What a first byte promises: the interval of the second byte, and how many bytes follow that
    one. A byte that begins no character promises nothing. -/
def promise (first : UInt8) : Option (UInt8 × UInt8 × Nat) :=
  if 0xc2 ≤ first && first ≤ 0xdf then some (0x80, 0xbf, 0)
  else if first == 0xe0 then some (0xa0, 0xbf, 1)
  else if first == 0xed then some (0x80, 0x9f, 1)
  else if 0xe1 ≤ first && first ≤ 0xef then some (0x80, 0xbf, 1)
  else if first == 0xf0 then some (0x90, 0xbf, 2)
  else if 0xf1 ≤ first && first ≤ 0xf3 then some (0x80, 0xbf, 2)
  else if first == 0xf4 then some (0x80, 0x8f, 2)
  else none

/-- A byte that may stand inside a character. -/
def isInner (b : UInt8) : Bool :=
  0x80 ≤ b && b ≤ 0xbf

/-- The six bits that an inner byte contributes. -/
def payload (b : UInt8) : Nat :=
  b.toNat % 0x40

/-- The characters of a sequence of bytes, with the length of each faulty run in its place. A faulty
    run is the longest run of bytes that begins a character and does not finish it, or a single byte
    that begins none. -/
def pieces : List UInt8 → List (Except Nat Char)
  | [] => []
  | a :: r =>
    if a < 0x80 then .ok (Char.ofNat a.toNat) :: pieces r
    else
      match promise a with
      | none => .error 1 :: pieces r
      | some (low, high, more) =>
        match r with
        | [] => [.error 1]
        | b :: r₁ =>
          if !(low ≤ b && b ≤ high) then .error 1 :: pieces (b :: r₁)
          else if more == 0 then
            .ok (Char.ofNat (a.toNat % 0x20 * 0x40 + payload b)) :: pieces r₁
          else
            match r₁ with
            | [] => [.error 2]
            | c :: r₂ =>
              if !isInner c then .error 2 :: pieces (c :: r₂)
              else if more == 1 then
                .ok (Char.ofNat ((a.toNat % 0x10 * 0x40 + payload b) * 0x40 + payload c)) ::
                  pieces r₂
              else
                match r₂ with
                | [] => [.error 3]
                | d :: r₃ =>
                  if !isInner d then .error 3 :: pieces (d :: r₃)
                  else
                    .ok (Char.ofNat
                      (((a.toNat % 0x08 * 0x40 + payload b) * 0x40 + payload c) * 0x40 +
                        payload d)) :: pieces r₃

/-- The characters and faulty runs of a document. -/
def documentPieces (document : ByteArray) : List (Except Nat Char) :=
  match String.fromUTF8? document with
  | some text => text.toList.map .ok
  | none => pieces document.toList

/-- The text of a document in which U+FFFD stands for each faulty run. -/
def lossy (document : ByteArray) : String :=
  String.ofList ((documentPieces document).map fun
    | .ok c => c
    | .error _ => '\uFFFD')

/-- The characters of a document, with `none` for each byte of a faulty run. -/
def marks (document : ByteArray) : List (Option Char) :=
  (documentPieces document).flatMap fun
    | .ok c => [some c]
    | .error length => List.replicate length none

end InfoFlow.Text.Utf8
