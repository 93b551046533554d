/-
What the data callbacks pass to their forwards.

`SetupAmxCallback` registers each option with a list of `FP_*` parameters, and the data
callback pushes its arguments to the variadic `MF_ExecuteForward`.  AMXX reads a word for
an `FP_CELL` or an `FP_ARRAY` and a double for an `FP_FLOAT`; the module is built for
i386.  Nine of the ten callbacks agree with their list.  `SeekCallback` pushes the high
word of the offset as the 64-bit integer `offset >> 32`, a word too many, and everything
behind it is read one place late.
-/
import AmxxCurl.Amx.Defs
import AmxxCurl.Lib.Varargs

namespace AmxxCurl

open AmxCurlController Varargs

/-- `FP_CELL`, `FP_FLOAT` and `FP_ARRAY`. -/
inductive ForwardParam
  | cell
  | float
  | array

/-- What AMXX asks `va_arg` for. -/
def ForwardParam.kind : ForwardParam → Kind
  | .cell => .word
  | .float => .double
  | .array => .word

/-- The parameters `SetupAmxCallback` registers a forward with. -/
def CallbackOption.params : CallbackOption → List ForwardParam
  | .writeFunction => [.array, .cell, .cell, .cell]
  | .readFunction => [.array, .cell, .cell, .cell]
  | .ioctlFunction => [.cell, .cell, .cell]
  | .seekFunction => [.cell, .cell, .cell, .cell]
  | .sockoptFunction => [.cell, .cell, .cell]
  | .progressFunction => [.cell, .float, .float, .float, .float]
  | .headerFunction => [.array, .cell, .cell, .cell]
  | .debugFunction => [.cell, .cell, .array, .cell, .cell]
  | .sslCtxFunction => [.cell, .cell, .cell]
  | .interleaveFunction => [.array, .cell, .cell, .cell]

/-- A data callback with its arguments; an array is what `MF_PrepareCharArray` returns for it. -/
inductive Invocation
  | write (ptr size nmemb : Word)
  | read (buffer size nitems : Word)
  | ioctl (handle cmd : Word)
  | seek (offset : BitVec 64) (origin : Word)
  | sockopt (curlfd purpose : Word)
  | progress (dltotal dlnow ultotal ulnow : BitVec 64)
  | header (buffer size nitems : Word)
  | debug (handle type debugData size : Word)
  | sslCtx (curl ctx : Word)
  | interleave (ptr size nmemb : Word)

namespace Invocation

def option : Invocation → CallbackOption
  | .write .. => .writeFunction
  | .read .. => .readFunction
  | .ioctl .. => .ioctlFunction
  | .seek .. => .seekFunction
  | .sockopt .. => .sockoptFunction
  | .progress .. => .progressFunction
  | .header .. => .headerFunction
  | .debug .. => .debugFunction
  | .sslCtx .. => .sslCtxFunction
  | .interleave .. => .interleaveFunction

/-- The arguments of `MF_ExecuteForward` behind the id. -/
def arguments (userData : Word) : Invocation → List Arg
  | .write ptr size nmemb => [.word ptr, .word size, .word nmemb, .word userData]
  | .read buffer size nitems => [.word buffer, .word size, .word nitems, .word userData]
  | .ioctl handle cmd => [.word handle, .word cmd, .word userData]
  -- `offset >> 32` is a `curl_off_t`, the low half is cast to `int`
  | .seek offset origin =>
      [.word userData, .wide (offset.sshiftRight 32), .word (low offset), .word origin]
  | .sockopt curlfd purpose => [.word userData, .word curlfd, .word purpose]
  | .progress dltotal dlnow ultotal ulnow =>
      [.word userData, .double dltotal, .double dlnow, .double ultotal, .double ulnow]
  | .header buffer size nitems => [.word buffer, .word size, .word nitems, .word userData]
  | .debug handle type debugData size =>
      [.word handle, .word type, .word debugData, .word size, .word userData]
  | .sslCtx curl ctx => [.word curl, .word ctx, .word userData]
  | .interleave ptr size nmemb => [.word ptr, .word size, .word nmemb, .word userData]

/-- What the Pawn function is to receive. -/
def meant (userData : Word) : Invocation → List Value
  | .write ptr size nmemb => [.word ptr, .word size, .word nmemb, .word userData]
  | .read buffer size nitems => [.word buffer, .word size, .word nitems, .word userData]
  | .ioctl handle cmd => [.word handle, .word cmd, .word userData]
  | .seek offset origin => [.word userData, .word (high offset), .word (low offset), .word origin]
  | .sockopt curlfd purpose => [.word userData, .word curlfd, .word purpose]
  | .progress dltotal dlnow ultotal ulnow =>
      [.word userData, .double dltotal, .double dlnow, .double ultotal, .double ulnow]
  | .header buffer size nitems => [.word buffer, .word size, .word nitems, .word userData]
  | .debug handle type debugData size =>
      [.word handle, .word type, .word debugData, .word size, .word userData]
  | .sslCtx curl ctx => [.word curl, .word ctx, .word userData]
  | .interleave ptr size nmemb => [.word ptr, .word size, .word nmemb, .word userData]

/-- What AMXX reads, and what it leaves on the stack. -/
def reads (userData : Word) (i : Invocation) : Option (List Value × List Word) :=
  Varargs.read (i.option.params.map ForwardParam.kind) (push (i.arguments userData))

/-- The words pushed are those AMXX reads, and mean what they are to mean. -/
def Matches (userData : Word) (i : Invocation) : Prop :=
  i.reads userData = some (i.meant userData, [])

end Invocation

/-- `data_.count(option) ? data_[option] : nullptr`. -/
def AmxCurl.userData (x : AmxCurl) (c : CallbackOption) : Word := BitVec.ofInt 32 ((x.data c).getD 0)

/-- `amx_curl_easy_setopt` of a `CURLOPTTYPE_OFF_T` option, with the cells `{high, low}`. -/
def assembleOffset (p0 p1 : Word) : BitVec 64 := (p0.setWidth 64 <<< 32) ||| p1.setWidth 64

theorem assembleOffset_eq (p0 p1 : Word) : assembleOffset p0 p1 = p0 ++ p1 := by
  apply BitVec.eq_of_getLsbD_eq
  intro i hi
  unfold assembleOffset
  rw [BitVec.getLsbD_append, BitVec.getLsbD_or, BitVec.getLsbD_shiftLeft]
  by_cases hlow : i < 32
  · simp [hlow, hi]
  · have hsmall : i - 32 < 64 := by omega
    have hnone : p1.getLsbD i = false := BitVec.getLsbD_of_ge p1 i (Nat.not_lt.mp hlow)
    simp [hlow, hi, hsmall, hnone]

/-- An offset survives the way through two cells. -/
theorem assembleOffset_high_low (offset : BitVec 64) :
    assembleOffset (high offset) (low offset) = offset := by
  rw [assembleOffset_eq, high_append_low]

namespace Invocation

/-- Every callback but `SeekCallback` agrees with its list. -/
theorem agrees (userData : Word) {i : Invocation} (hi : i.option ≠ .seekFunction) :
    Agrees (i.option.params.map ForwardParam.kind) (i.arguments userData) (i.meant userData) := by
  cases i with
  | seek offset origin => exact absurd rfl hi
  | progress dltotal dlnow ultotal ulnow =>
      exact .word _ (.double _ (.double _ (.double _ (.double _ .nil))))
  | debug handle type debugData size =>
      exact .word _ (.word _ (.word _ (.word _ (.word _ .nil))))
  | write | read | header | interleave => exact .word _ (.word _ (.word _ (.word _ .nil)))
  | ioctl | sockopt | sslCtx => exact .word _ (.word _ (.word _ .nil))

/--
**Which forwards receive what they are registered for**: those of all options but
`CURLOPT_SEEKFUNCTION`.  The encoding of an offset in two cells is not at fault.
-/
theorem matches_iff (x : AmxCurl) (i : Invocation) :
    (i.Matches (x.userData i.option) ↔ i.option ≠ .seekFunction) ∧
      ∀ offset, assembleOffset (high offset) (low offset) = offset := by
  refine ⟨⟨fun hm => ?_, fun hi => ?_⟩, assembleOffset_high_low⟩
  · cases i with
    | seek offset origin =>
        -- five words were pushed, and four are read
        have hlen := read_length hm
        simp [push, arguments, Arg.words, option, CallbackOption.params, ForwardParam.kind,
          Kind.size] at hlen
    | _ => simp [option]
  · have hread := (agrees (x.userData i.option) hi).read []
    rw [List.append_nil] at hread
    exact hread

/-- The Pawn function is to seek to 5 with origin 0: it is told 0 with origin 5. -/
theorem seek_misread : ¬(Invocation.seek 5 0).Matches 0 ∧
    (Invocation.seek 5 0).reads 0 = some ([.word 0, .word 0, .word 0, .word 5], [0]) := by
  unfold Matches
  decide

end Invocation

end AmxxCurl
