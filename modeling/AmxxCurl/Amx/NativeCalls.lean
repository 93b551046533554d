/-
The natives of `g_amx_curl_natives`, with the exceptions that pass through them.

`Bound` is the controller together with the options of every easy handle.  A native does
three things: what it does to the controller is an action of the machine, what it does to
the options of one easy handle is a function of `Curl`, and what it comes to is an
`Outcome`: it returns to AMXX, or an exception leaves it.  What libcurl returns is part
of the call.
-/
import AmxxCurl.Amx.Options
import AmxxCurl.Amx.Body

namespace AmxxCurl

open AmxCurlController

/-- The controller, and the options that are set on the easy handle of each object. -/
structure Bound where
  ctrl : AmxCurlController
  options : ObjId → OptionTable

/-- The natives, each with what it is called with and what libcurl and AMXX return to it. -/
inductive Native
  | easyEscape (h : AmxCurlHandle) (escaped : Option (List UInt8))
  | easyUnescape (h : AmxCurlHandle) (unescaped : Option (List UInt8))
  | easyInit (a : AmxPtr) (reply : Option CurlPtr) (dataCode functionCode : CurlCode)
  | easyPerform (h : AmxCurlHandle) (found : Bool) (fun_ dataLen : Int)
      (openCode openDataCode closeCode closeDataCode : CurlCode)
  | easySetopt (h : AmxCurlHandle) (option value : Int) (reply : Option ForwardId)
      (code dataCode functionCode : CurlCode)
  | easyCleanup (h : AmxCurlHandle)
  | easyReset (h : AmxCurlHandle) (dataCode functionCode : CurlCode)
  | easyGetinfo (h : AmxCurlHandle) (info : Nat) (code : CurlCode)
  | easyStrerror (code : CurlCode)
  | formadd (options : List Int) (code : Int)
  | formfree
  | slistAppend (list : Int)
  | slistFreeAll
  | version
  | getResponseBody (h : AmxCurlHandle) (copied : Int)

/-- What a call in a native comes to. -/
abbrev Call := Outcome CurlException

/-! ### `catch` -/

/-- A `catch` clause. -/
inductive Clause
  | initFailture
  | invalidOption
  | invalidHandle
  | taskCallbackNotFound
  | stdException
  | all

def Clause.takes : Clause → CurlException → Bool
  | .initFailture, .initFailture => true
  | .invalidOption, .invalidOption _ _ => true
  | .invalidHandle, .invalidHandle => true
  | .taskCallbackNotFound, .taskCallbackNotFound => true
  | .stdException, e => e.isStdException
  | .all, _ => true
  | _, _ => false

/-- One of the clauses takes the exception. -/
def takesAny (clauses : List Clause) (e : CurlException) : Bool := clauses.any fun c => c.takes e

/-- `try { x }` with its clauses, and what is returned behind it. -/
def attempt (x : Call Int) (clauses : List Clause) (a : Int) : Call Int :=
  x.catching (takesAny clauses) a

/-- `static_cast<CURLoption>` of a cell. -/
def toOption (cell : Int) : CurlOption := (cell % 2 ^ 32).toNat

/-- `new T[n]` with elements of `size` bytes, where half the address space is too much. -/
def newArray (size n : Int) : Call Unit :=
  .require (0 ≤ n && n * size ≤ 0x7fffffff) .badArrayNewLength

/-! ### `AmxCurlManager`, on the options of a known handle -/

/-- `AmxCurlManager::CurlSetOption`; a data option is the `CurlCallbackAmx`'s to keep. -/
def setManagerOption (t : OptionTable) (option : CurlOption) (value : Int) (code : CurlCode) :
    OptionTable × Call CurlCode :=
  if isDataOption option then (t, .returns curleOk)
  else Curl.setOption t option (.plugin value) code

/-- `AmxCurlManager::CurlSetupAmxCallback`. -/
def setManagerCallback (t : OptionTable) (self : ObjId) (option : CurlOption)
    (dataCode functionCode : CurlCode) : OptionTable × Call Unit :=
  match setupOption option with
  | none => (t, .throws (.runtimeError "Unsupported option"))
  | some _ => Curl.bindCallback t self option dataCode functionCode

/-- The ranges of `amx_curl_easy_setopt`. -/
def dispatchSetopt (t : OptionTable) (self : ObjId) (option : CurlOption) (value : Int)
    (code dataCode functionCode : CurlCode) : OptionTable × Call Int :=
  if option < Curlopt.objectPoint then setManagerOption t option value code
  else if option < Curlopt.writeFunction then
    -- libcurl copies the string: the buffer it is in will be used again
    let option := if option = Curlopt.postFields then Curlopt.copyPostFields else option
    setManagerOption t option value code
  else if option < Curlopt.offT then
    let r := setManagerCallback t self option dataCode functionCode
    (r.1, r.2 >>= fun _ => .returns curleOk)
  else setManagerOption t option value code

/-- `CurlMulti::AddCurl` sets these and does not look at the codes. -/
def addCurlOptions (t : OptionTable) (openCode openDataCode closeCode closeDataCode : CurlCode) :
    OptionTable :=
  (((t.easySetopt Curlopt.openSocketFunction .openSocket openCode).easySetopt
    Curlopt.openSocketData .curlMulti openDataCode).easySetopt
    Curlopt.closeSocketFunction .closeSocket closeCode).easySetopt
    Curlopt.closeSocketData .curlMulti closeDataCode

namespace Bound

variable (s : Bound)

/-- `AmxCurlManager::CheckHandle`. -/
def checkHandle (h : AmxCurlHandle) : Call ObjId :=
  match s.ctrl.amxCurl.lookup h with
  | some o => .returns o
  | none => .throws .invalidHandle

/-! ### The natives -/

/-- `amx_curl_easy_escape`; `EscapeUrl` assigns from what `curl_easy_escape` returns. -/
def amxCurlEasyEscape (h : AmxCurlHandle) (escaped : Option (List UInt8)) : Call Int :=
  attempt
    (s.checkHandle h >>= fun _ =>
      match escaped with
      | none => .undefined
      | some _ => .returns 0)
    [.invalidHandle] 0

/-- `amx_curl_easy_unescape`. -/
def amxCurlEasyUnescape (h : AmxCurlHandle) (unescaped : Option (List UInt8)) : Call Int :=
  attempt
    (s.checkHandle h >>= fun _ =>
      match unescaped with
      | none => .undefined
      | some bytes => .returns bytes.length)
    [.invalidHandle] 0

/-- `amx_curl_easy_init`. -/
def amxCurlEasyInit (reply : Option CurlPtr) (dataCode functionCode : CurlCode) : Call Int :=
  attempt
    ((Curl.initCurl s.ctrl.objs.next reply.isSome dataCode functionCode).2 >>= fun _ =>
      .returns s.ctrl.getCurlHandle.1)
    [.initFailture] 0

/-- `AmxCurlManager::CurlPerformTask`. -/
def curlPerformTask (h : AmxCurlHandle) (found : Bool) : Call Unit :=
  s.checkHandle h >>= fun o =>
    if (s.ctrl.obj o).isTransferInProgress then .returns ()
    else .require found .taskCallbackNotFound

/-- `amx_curl_easy_perform`. -/
def amxCurlEasyPerform (h : AmxCurlHandle) (found : Bool) (dataLen : Int) : Call Int :=
  (if dataLen > 0 then newArray 4 dataLen else .returns ()) >>= fun _ =>
    attempt (s.curlPerformTask h found >>= fun _ => .returns 0)
      [.taskCallbackNotFound, .invalidHandle, .all] 0

/-- `amx_curl_easy_setopt`. -/
def amxCurlEasySetopt (h : AmxCurlHandle) (option value : Int)
    (code dataCode functionCode : CurlCode) : Call Int :=
  attempt
    (s.checkHandle h >>= fun o =>
      (dispatchSetopt (s.options o) o (toOption option) value code dataCode functionCode).2)
    [.invalidOption, .invalidHandle, .stdException, .all] (-1)

/-- `amx_curl_easy_cleanup`. -/
def amxCurlEasyCleanup (h : AmxCurlHandle) : Call Int :=
  attempt (s.checkHandle h >>= fun _ => .returns 0) [.invalidHandle] 0

/-- `AmxCurlManager::CurlReset`, for the options. -/
def curlReset (h : AmxCurlHandle) (dataCode functionCode : CurlCode) : Call Unit :=
  s.checkHandle h >>= fun o =>
    if (s.ctrl.obj o).isTransferInProgress then .returns ()
    else (Curl.bindCallback Curl.cleared o Curlopt.writeFunction dataCode functionCode).2

/-- `amx_curl_easy_reset`. -/
def amxCurlEasyReset (h : AmxCurlHandle) (dataCode functionCode : CurlCode) : Call Int :=
  attempt (s.curlReset h dataCode functionCode >>= fun _ => .returns 0) [.invalidHandle] 0

/-- The types of a `CURLINFO` that `amx_curl_easy_getinfo` knows. -/
def knownInfo (info : Nat) : Bool :=
  let mask := info &&& 0xf00000
  mask == 0x100000 || mask == 0x200000 || mask == 0x500000 || mask == 0x300000 || mask == 0x400000

/-- `amx_curl_easy_getinfo`. -/
def amxCurlEasyGetinfo (h : AmxCurlHandle) (info : Nat) (code : CurlCode) : Call Int :=
  attempt (if knownInfo info then s.checkHandle h >>= fun _ => .returns code else .returns 0)
    [.invalidHandle] 0

/-- The pairs `amx_curl_formadd` counts, up to `CURLFORM_END`. -/
def formPairs (options : List Int) : Nat := (options.takeWhile (· != 17)).length

/-- `amx_curl_formadd`: an array of 14 strings, and one of `pairs + 1` forms. -/
def amxCurlFormadd (options : List Int) (code : Int) : Call Int :=
  if formPairs options = 0 ∨ formPairs options > 14 then .returns (-1)
  else newArray 16384 14 >>= fun _ => newArray 8 (formPairs options + 1) >>= fun _ => .returns code

/-- `amx_curl_get_response_body`; `copied` is what `MF_SetAmxString` returns. -/
def amxCurlGetResponseBody (h : AmxCurlHandle) (copied : Int) : Call Int :=
  attempt (s.checkHandle h >>= fun _ => .returns copied) [.invalidHandle] 0

/-- What a native comes to. -/
def outcome : Native → Call Int
  | .easyEscape h escaped => s.amxCurlEasyEscape h escaped
  | .easyUnescape h unescaped => s.amxCurlEasyUnescape h unescaped
  | .easyInit _ reply dataCode functionCode => s.amxCurlEasyInit reply dataCode functionCode
  | .easyPerform h found _ dataLen _ _ _ _ => s.amxCurlEasyPerform h found dataLen
  | .easySetopt h option value _ code dataCode functionCode =>
      s.amxCurlEasySetopt h option value code dataCode functionCode
  | .easyCleanup h => s.amxCurlEasyCleanup h
  | .easyReset h dataCode functionCode => s.amxCurlEasyReset h dataCode functionCode
  | .easyGetinfo h info code => s.amxCurlEasyGetinfo h info code
  | .easyStrerror _ => .returns 0
  | .formadd options code => amxCurlFormadd options code
  | .formfree => .returns 0
  | .slistAppend list => .returns list
  | .slistFreeAll => .returns 0
  | .version => .returns 0
  | .getResponseBody h copied => s.amxCurlGetResponseBody h copied

/-! ### What a native does -/

/-- The option that `SetData` keeps the value for; of other data options nothing is read. -/
def dataOption (option : CurlOption) : Option CallbackOption :=
  CallbackOption.all.find? fun c => c.dataNumber == option

/-- What a native does to the controller, if anything. -/
def action : Native → Option AmxCurlController.Action
  | .easyInit a reply _ _ => some (.easyInit a reply)
  | .easyPerform h found fun_ dataLen _ _ _ _ => some (.easyPerform h found fun_ dataLen)
  | .easySetopt h option value reply _ dataCode functionCode =>
      let option := toOption option
      if Curlopt.writeFunction ≤ option ∧ option < Curlopt.offT then
        some (.setCallback h (setupOption option) reply (dataCode, functionCode))
      else
        match dataOption option with
        | some c => some (.setOption h (some (c, value)))
        | none =>
            if isDataOption option ∧ (s.ctrl.amxCurl.lookup h).isSome then none
            else some (.setOption h none)
  | .easyCleanup h => some (.easyCleanup h)
  | .easyReset h _ _ => some (.easyReset h)
  | _ => none

/-- The options of one easy handle are rewritten. -/
def setOptions (o : ObjId) (f : OptionTable → OptionTable) : ObjId → OptionTable :=
  Function.update s.options o (f (s.options o))

/-- The options of the easy handles after a native. -/
def optionsAfter : Native → ObjId → OptionTable
  | .easyInit _ reply dataCode functionCode =>
      let o := s.ctrl.objs.next
      s.setOptions o fun _ => (Curl.initCurl o reply.isSome dataCode functionCode).1
  | .easyPerform h found _ _ openCode openDataCode closeCode closeDataCode =>
      match s.ctrl.amxCurl.lookup h with
      | none => s.options
      | some o =>
          if (s.ctrl.obj o).isTransferInProgress || !found then s.options
          else s.setOptions o fun t => addCurlOptions t openCode openDataCode closeCode closeDataCode
  | .easySetopt h option value _ code dataCode functionCode =>
      match s.ctrl.amxCurl.lookup h with
      | none => s.options
      | some o => s.setOptions o fun t =>
          (dispatchSetopt t o (toOption option) value code dataCode functionCode).1
  | .easyReset h dataCode functionCode =>
      match s.ctrl.amxCurl.lookup h with
      | none => s.options
      | some o =>
          if (s.ctrl.obj o).isTransferInProgress then s.options
          else s.setOptions o fun _ =>
            (Curl.bindCallback Curl.cleared o Curlopt.writeFunction dataCode functionCode).1
  | _ => s.options

/-- A plugin calls a native, or something else happens to the module. -/
inductive Turn
  | native (n : Native)
  | other (a : AmxCurlController.Action)

/-- The controller after a native that returns. -/
def called (n : Native) : Option AmxCurlController :=
  match s.action n with
  | some a => s.ctrl.next a
  | none => if s.ctrl.AtPawn then some s.ctrl else none

/-- What a turn does; an exception that leaves a native is the end of the server. -/
def next : Turn → Option Bound
  | .native n =>
      match s.outcome n with
      | .returns _ => (s.called n).map fun m => ⟨m, s.optionsAfter n⟩
      | _ => none
  | .other a => if a.isNative then none else (s.ctrl.next a).map fun m => ⟨m, s.options⟩

/-- The module after the server has started. -/
def boot : Bound := ⟨.boot, fun _ => Curl.cleared⟩

/-- The controller and the options together. -/
def machine : Machine Bound Turn := ⟨boot, next⟩

end Bound

end AmxxCurl
