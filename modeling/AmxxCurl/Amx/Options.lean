/-
The options of libcurl as `CurlUtils` tells them apart, and what `Curl` does to them.

An easy handle is a table of options.  `curl_easy_setopt` writes the option it is given
if it accepts the value, and nothing else; `Curl` calls it for options that are neither
callbacks nor their data, and sets those in pairs by `BindCallback`.  The result codes
are libcurl's to choose.
-/
import AmxxCurl.Amx.Defs
import AmxxCurl.Lib.Outcome

namespace AmxxCurl

open AmxCurlController

/-- A `CURLoption`. -/
abbrev CurlOption := Nat

/-! ### The numbers of `curl.h` -/

namespace Curlopt

/-- `CURLOPTTYPE_OBJECTPOINT`. -/
abbrev objectPoint : CurlOption := 10000
/-- `CURLOPTTYPE_OFF_T`. -/
abbrev offT : CurlOption := 30000

@[match_pattern] abbrev writeFunction : CurlOption := 20011
@[match_pattern] abbrev readFunction : CurlOption := 20012
@[match_pattern] abbrev progressFunction : CurlOption := 20056
@[match_pattern] abbrev headerFunction : CurlOption := 20079
@[match_pattern] abbrev debugFunction : CurlOption := 20094
@[match_pattern] abbrev sslCtxFunction : CurlOption := 20108
@[match_pattern] abbrev ioctlFunction : CurlOption := 20130
@[match_pattern] abbrev sockoptFunction : CurlOption := 20148
@[match_pattern] abbrev openSocketFunction : CurlOption := 20163
@[match_pattern] abbrev seekFunction : CurlOption := 20167
@[match_pattern] abbrev interleaveFunction : CurlOption := 20196
@[match_pattern] abbrev chunkBgnFunction : CurlOption := 20198
@[match_pattern] abbrev chunkEndFunction : CurlOption := 20199
@[match_pattern] abbrev fnmatchFunction : CurlOption := 20200
@[match_pattern] abbrev closeSocketFunction : CurlOption := 20208
@[match_pattern] abbrev xferinfoFunction : CurlOption := 20219

@[match_pattern] abbrev writeData : CurlOption := 10001
@[match_pattern] abbrev readData : CurlOption := 10009
@[match_pattern] abbrev headerData : CurlOption := 10029
@[match_pattern] abbrev progressData : CurlOption := 10057
/-- An alias. -/
abbrev xferinfoData : CurlOption := progressData
@[match_pattern] abbrev debugData : CurlOption := 10095
@[match_pattern] abbrev sslCtxData : CurlOption := 10109
@[match_pattern] abbrev ioctlData : CurlOption := 10131
@[match_pattern] abbrev sockoptData : CurlOption := 10149
@[match_pattern] abbrev openSocketData : CurlOption := 10164
@[match_pattern] abbrev seekData : CurlOption := 10168
@[match_pattern] abbrev interleaveData : CurlOption := 10195
@[match_pattern] abbrev chunkData : CurlOption := 10201
@[match_pattern] abbrev fnmatchData : CurlOption := 10202
@[match_pattern] abbrev closeSocketData : CurlOption := 10209

abbrev postFields : CurlOption := 10015
abbrev copyPostFields : CurlOption := 10165

end Curlopt

/-- libcurl numbers its FUNCTION options from `CURLOPT_WRITEFUNCTION` on. -/
def CurlOption.IsFunction (option : CurlOption) : Prop :=
  Curlopt.writeFunction ≤ option ∧ option < Curlopt.offT

/-! ### `CurlUtils` -/

/-- The virtual functions of `CurlCallback`, each with its static trampoline. -/
inductive Virtual
  | writeCallback
  | readCallback
  | ioctlCallback
  | seekCallback
  | sockoptCallback
  | progressCallback
  | progressCallbackx
  | headerCallback
  | debugCallback
  | sslCtxCallback
  | interleaveCallback
  | chunkBgnCallback
  | chunkEndCallback
  | fnmatchCallback
  deriving DecidableEq

/-- `CurlCallbackAmx` overrides it; the others throw `CurlUnhandledCallbackException`. -/
def Virtual.isOverridden : Virtual → Bool
  | .progressCallbackx | .chunkBgnCallback | .chunkEndCallback | .fnmatchCallback => false
  | _ => true

/-- `CurlUtils::GetDataOptionForCallbackOption`; `none` where it throws. -/
def getDataOptionForCallbackOption : CurlOption → Option CurlOption
  | Curlopt.writeFunction => some Curlopt.writeData
  | Curlopt.readFunction => some Curlopt.readData
  | Curlopt.ioctlFunction => some Curlopt.ioctlData
  | Curlopt.seekFunction => some Curlopt.seekData
  | Curlopt.sockoptFunction => some Curlopt.sockoptData
  | Curlopt.openSocketFunction => some Curlopt.openSocketData
  | Curlopt.closeSocketFunction => some Curlopt.closeSocketData
  | Curlopt.progressFunction => some Curlopt.progressData
  | Curlopt.xferinfoFunction => some Curlopt.xferinfoData
  | Curlopt.headerFunction => some Curlopt.headerData
  | Curlopt.debugFunction => some Curlopt.debugData
  | Curlopt.sslCtxFunction => some Curlopt.sslCtxData
  | Curlopt.interleaveFunction => some Curlopt.interleaveData
  | Curlopt.chunkBgnFunction => some Curlopt.chunkData
  | Curlopt.chunkEndFunction => some Curlopt.chunkData
  | Curlopt.fnmatchFunction => some Curlopt.fnmatchData
  | _ => none

/-- `CurlUtils::IsDataOption`. -/
def isDataOption : CurlOption → Bool
  | Curlopt.writeData => true
  | Curlopt.readData => true
  | Curlopt.ioctlData => true
  | Curlopt.seekData => true
  | Curlopt.sockoptData => true
  | Curlopt.openSocketData => true
  | Curlopt.closeSocketData => true
  | Curlopt.progressData => true
  | Curlopt.headerData => true
  | Curlopt.debugData => true
  | Curlopt.sslCtxData => true
  | Curlopt.interleaveData => true
  | Curlopt.chunkData => true
  | Curlopt.fnmatchData => true
  | _ => false

/-- `CurlUtils::IsCallbackOption`. -/
def isCallbackOption : CurlOption → Bool
  | Curlopt.writeFunction => true
  | Curlopt.readFunction => true
  | Curlopt.ioctlFunction => true
  | Curlopt.seekFunction => true
  | Curlopt.sockoptFunction => true
  | Curlopt.openSocketFunction => true
  | Curlopt.closeSocketFunction => true
  | Curlopt.progressFunction => true
  | Curlopt.xferinfoFunction => true
  | Curlopt.headerFunction => true
  | Curlopt.debugFunction => true
  | Curlopt.sslCtxFunction => true
  | Curlopt.interleaveFunction => true
  | Curlopt.chunkBgnFunction => true
  | Curlopt.chunkEndFunction => true
  | Curlopt.fnmatchFunction => true
  | _ => false

/-- `CurlCallback::GetMethodPointerForCallbackOption`; `none` where it throws. -/
def getMethodPointerForCallbackOption : CurlOption → Option Virtual
  | Curlopt.writeFunction => some .writeCallback
  | Curlopt.readFunction => some .readCallback
  | Curlopt.ioctlFunction => some .ioctlCallback
  | Curlopt.seekFunction => some .seekCallback
  | Curlopt.sockoptFunction => some .sockoptCallback
  | Curlopt.progressFunction => some .progressCallback
  | Curlopt.xferinfoFunction => some .progressCallbackx
  | Curlopt.headerFunction => some .headerCallback
  | Curlopt.debugFunction => some .debugCallback
  | Curlopt.sslCtxFunction => some .sslCtxCallback
  | Curlopt.interleaveFunction => some .interleaveCallback
  | Curlopt.chunkBgnFunction => some .chunkBgnCallback
  | Curlopt.chunkEndFunction => some .chunkEndCallback
  | Curlopt.fnmatchFunction => some .fnmatchCallback
  | _ => none

/-- The cases of `SetupAmxCallback`; `none` where it throws. -/
def setupOption : CurlOption → Option CallbackOption
  | Curlopt.writeFunction => some .writeFunction
  | Curlopt.readFunction => some .readFunction
  | Curlopt.ioctlFunction => some .ioctlFunction
  | Curlopt.seekFunction => some .seekFunction
  | Curlopt.sockoptFunction => some .sockoptFunction
  | Curlopt.progressFunction => some .progressFunction
  | Curlopt.headerFunction => some .headerFunction
  | Curlopt.debugFunction => some .debugFunction
  | Curlopt.sslCtxFunction => some .sslCtxFunction
  | Curlopt.interleaveFunction => some .interleaveFunction
  | _ => none

/-- The number of a callback option. -/
def CallbackOption.number : CallbackOption → CurlOption
  | .writeFunction => Curlopt.writeFunction
  | .readFunction => Curlopt.readFunction
  | .ioctlFunction => Curlopt.ioctlFunction
  | .seekFunction => Curlopt.seekFunction
  | .sockoptFunction => Curlopt.sockoptFunction
  | .progressFunction => Curlopt.progressFunction
  | .headerFunction => Curlopt.headerFunction
  | .debugFunction => Curlopt.debugFunction
  | .sslCtxFunction => Curlopt.sslCtxFunction
  | .interleaveFunction => Curlopt.interleaveFunction

/-- The number of its data option. -/
def CallbackOption.dataNumber : CallbackOption → CurlOption
  | .writeFunction => Curlopt.writeData
  | .readFunction => Curlopt.readData
  | .ioctlFunction => Curlopt.ioctlData
  | .seekFunction => Curlopt.seekData
  | .sockoptFunction => Curlopt.sockoptData
  | .progressFunction => Curlopt.progressData
  | .headerFunction => Curlopt.headerData
  | .debugFunction => Curlopt.debugData
  | .sslCtxFunction => Curlopt.sslCtxData
  | .interleaveFunction => Curlopt.interleaveData

/-- The virtual function it is for. -/
def CallbackOption.virtual : CallbackOption → Virtual
  | .writeFunction => .writeCallback
  | .readFunction => .readCallback
  | .ioctlFunction => .ioctlCallback
  | .seekFunction => .seekCallback
  | .sockoptFunction => .sockoptCallback
  | .progressFunction => .progressCallback
  | .headerFunction => .headerCallback
  | .debugFunction => .debugCallback
  | .sslCtxFunction => .sslCtxCallback
  | .interleaveFunction => .interleaveCallback

/-! ### What the switches have in common -/

section Switches

variable {option : CurlOption} {c d : CallbackOption}

/-- `SetupAmxCallback` takes the ten options, and no others. -/
theorem setupOption_eq_some : setupOption option = some c ↔ option = c.number := by
  constructor
  · unfold setupOption
    intro h
    split at h
    all_goals
      first
        | (injection h with h; subst h; rfl)
        | simp at h
  · rintro rfl
    cases c <;> rfl

theorem number_inj (h : c.number = d.number) : c = d := by
  have hc := setupOption_eq_some.mpr (rfl : c.number = c.number)
  have hd := setupOption_eq_some.mpr h
  exact Option.some.inj (hc.symm.trans hd)

theorem dataNumber_inj (h : c.dataNumber = d.dataNumber) : c = d := by
  cases c <;> cases d <;> first | rfl | (exact absurd h (by decide))

/-- What `BindCallback` needs of an option that `SetupAmxCallback` takes. -/
theorem number_bindable (c : CallbackOption) : isCallbackOption c.number = true ∧
    getDataOptionForCallbackOption c.number = some c.dataNumber ∧
    getMethodPointerForCallbackOption c.number = some c.virtual ∧
    c.virtual.isOverridden = true := by
  cases c <;> exact ⟨rfl, rfl, rfl, rfl⟩

theorem number_isFunction (c : CallbackOption) : CurlOption.IsFunction c.number := by
  cases c <;> exact ⟨by decide, by decide⟩

theorem dataNumber_isData (c : CallbackOption) : isDataOption c.dataNumber = true := by
  cases c <;> rfl

end Switches

/-! ### `Curl` -/

/-- What an option may hold. -/
inductive OptionValue
  /-- A static function of `CurlCallback`. -/
  | trampoline (f : Virtual)
  /-- The `CurlCallbackAmx` of an object. -/
  | callbackAmx (o : ObjId)
  /-- `CurlOpenSocketCallbackStatic`. -/
  | openSocket
  /-- `CurlCloseSocketCallbackStatic`. -/
  | closeSocket
  /-- The `CurlMulti`. -/
  | curlMulti
  /-- Something a plugin passed: a number, a string, an offset, a list. -/
  | plugin (v : Int)
  deriving DecidableEq

/-- The options of an easy handle that are set. -/
abbrev OptionTable := CurlOption → Option OptionValue

/-- `curl_easy_setopt`, with the code it returns. -/
def OptionTable.easySetopt (t : OptionTable) (option : CurlOption) (value : OptionValue)
    (code : CurlCode) : OptionTable :=
  if code = curleOk then Function.update t option (some value) else t

/-- The text of an exception. -/
inductive What
  | text (message : String)
  /-- `curl_easy_strerror`. -/
  | strerror (code : CurlCode)
  deriving DecidableEq

/-- The exceptions the natives meet with. -/
inductive CurlException
  | initFailture
  | invalidOption (option : CurlOption) (what : What)
  | invalidHandle
  | taskCallbackNotFound
  | runtimeError (what : String)
  | badArrayNewLength
  deriving DecidableEq

/-- `catch (const std::exception&)` takes it; two classes derive from it in private. -/
def CurlException.isStdException : CurlException → Bool
  | .invalidHandle | .taskCallbackNotFound => false
  | _ => true

namespace Curl

/-- `Curl::SetOption`, with the code it returns. -/
def setOption (t : OptionTable) (option : CurlOption) (value : OptionValue) (code : CurlCode) :
    OptionTable × Outcome CurlException CurlCode :=
  if isDataOption option ∧ option ≠ Curlopt.openSocketData ∧ option ≠ Curlopt.closeSocketData then
    (t, .throws (.invalidOption option
      (.text "can't set data option, use CurlCallback derived class to store data")))
  else if isCallbackOption option ∧ option ≠ Curlopt.openSocketFunction ∧
      option ≠ Curlopt.closeSocketFunction then
    (t, .throws (.invalidOption option
      (.text "can't set callback option, use Curl::BindCallback to enable callbacks")))
  else (t.easySetopt option value code, .returns code)

/-- `Curl::BindCallback` for the `CurlCallbackAmx` of `self`: first the data, then the function. -/
def bindCallback (t : OptionTable) (self : ObjId) (option : CurlOption)
    (dataCode functionCode : CurlCode) : OptionTable × Outcome CurlException Unit :=
  if isCallbackOption option then
    match getDataOptionForCallbackOption option with
    | none => (t, .throws (.runtimeError "Unsupported callback option"))
    | some data =>
        let t := t.easySetopt data (.callbackAmx self) dataCode
        if dataCode = curleOk then
          match getMethodPointerForCallbackOption option with
          | none => (t, .throws (.runtimeError "Unsupported callback option"))
          | some f =>
              (t.easySetopt option (.trampoline f) functionCode,
                if functionCode = curleOk then .returns ()
                else .throws (.invalidOption option (.strerror functionCode)))
        else (t, .throws (.invalidOption option (.strerror dataCode)))
  else (t, .throws (.invalidOption option (.text "callback option needed")))

/-- `curl_easy_init` and `curl_easy_reset` leave no option set that the module looks at. -/
def cleared : OptionTable := fun _ => none

/-- `Curl::InitCurl`; `got` says whether `curl_easy_init` returned a handle. -/
def initCurl (self : ObjId) (got : Bool) (dataCode functionCode : CurlCode) :
    OptionTable × Outcome CurlException Unit :=
  if got then bindCallback cleared self Curlopt.writeFunction dataCode functionCode
  else (cleared, .throws .initFailture)

end Curl

end AmxxCurl
