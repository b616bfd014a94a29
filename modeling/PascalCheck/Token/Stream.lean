import PascalCheck.Tape
import PascalCheck.Token.Basic

namespace PascalCheck

abbrev TokenStream := Tape Token

namespace TokenStream

def outOfReach : String := "tuple index out of range"

-- Past the last token the kind is eof. A token of that kind may also stand in the run itself.
def current (stream : TokenStream) : TokenKind :=
  match stream.rest with
  | [] => .eof
  | token :: _ => token.kind

def following (stream : TokenStream) : TokenKind :=
  match stream.rest with
  | _ :: token :: _ => token.kind
  | _ => .eof

-- The place of the token passed last; before any, the start of the text.
def lastPosition (stream : TokenStream) : Position :=
  match stream.passed with
  | [] => .start
  | token :: _ => token.position

-- The place of the current token; at the end, that of the token passed last.
def currentPosition (stream : TokenStream) : Position :=
  match stream.rest with
  | [] => stream.lastPosition
  | token :: _ => token.position

-- The tokens from here up to the first whose kind is a stop, and the stream moved on past them.
def before (stop : TokenKind → Bool) (stream : TokenStream) : List Token :=
  stream.rest.takeWhile fun token => !stop token.kind

def skipTo (stop : TokenKind → Bool) (stream : TokenStream) : TokenStream :=
  ⟨(stream.before stop).reverse ++ stream.passed,stream.rest.dropWhile fun token => !stop token.kind⟩

@[simp] theorem toList_skipTo (stop : TokenKind → Bool) (stream : TokenStream) :
    (skipTo stop stream).toList = stream.toList := by
  simp [skipTo,before,Tape.toList,List.takeWhile_append_dropWhile]

theorem rest_of_current {stream : TokenStream} (more : stream.current ≠ .eof) :
    ∃ token rest, stream.rest = token :: rest ∧ token.kind = stream.current := by
  unfold current at *
  cases h : stream.rest with
  | nil => rw [h] at more; exact absurd rfl more
  | cons token rest => exact ⟨token,rest,rfl,rfl⟩

theorem forward_shorter {stream : TokenStream} (more : stream.current ≠ .eof) :
    stream.forward.rest.length < stream.rest.length := by
  obtain ⟨token,rest,same,_⟩ := rest_of_current more
  simp [Tape.rest_forward,same]

theorem forward_no_longer (stream : TokenStream) : stream.forward.rest.length ≤ stream.rest.length := by
  simp [Tape.rest_forward]

theorem skipTo_no_longer (stop : TokenKind → Bool) (stream : TokenStream) :
    (skipTo stop stream).rest.length ≤ stream.rest.length :=
  (List.dropWhile_sublist _).length_le

theorem skipTo_shorter {stop : TokenKind → Bool} {stream : TokenStream} (more : stream.current ≠ .eof)
    (go : stop stream.current = false) : (skipTo stop stream).rest.length < stream.rest.length := by
  obtain ⟨token,rest,same,kind⟩ := rest_of_current more
  have moved := (List.dropWhile_sublist (fun token => !stop token.kind) (l := rest)).length_le
  simp only [skipTo,same,List.dropWhile_cons,kind,go,Bool.not_false,if_true,List.length_cons]
  omega

end TokenStream

end PascalCheck
