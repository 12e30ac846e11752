/-
Module: LibAtbus.Detail.ErrorType
Layer: Detail
Purpose: The return codes of `include/detail/libatbus_error.h`. The sources test a code for zero
  (`ret ? ret : x`) and for its sign (`res < 0`); success is the only code that is not negative.
Trusted boundary: human-reviewed spec
Main exports: ErrorType, ErrorType.code, ErrorType.orElse, ErrorType.failed
-/
namespace LibAtbus

/-- `ATBUS_ERROR_TYPE`, without the common prefix of its names. -/
inductive ErrorType where
  | success
  | params
  | inner
  | noData
  | buffLimit
  | malloc
  | scheme
  | badData
  | invalidSize
  | notInited
  | alreadyInited
  | accessDeny
  | unpack
  | pack
  | atnodeNotFound
  | atnodeInvalidId
  | atnodeNoConnection
  | atnodeFaultTolerant
  | atnodeInvalidMsg
  | atnodeBusIdNotMatch
  | atnodeTtl
  | atnodeMaskConflict
  | atnodeIdConflict
  | channelSizeTooSmall
  | channelBufferInvalid
  | channelAddrInvalid
  | channelClosing
  | nodeBadBlockNodeNum
  | nodeBadBlockBuffSize
  | nodeBadBlockWseqId
  | nodeBadBlockCseqId
  | nodeTimeout
  | shmGetFailed
  | shmNotFound
  | sockBindFailed
  | sockListenFailed
  | sockConnectFailed
  | pipeBindFailed
  | pipeListenFailed
  | pipeConnectFailed
  | dnsGetaddrFailed
  | connectionNotFound
  | writeFailed
  | readFailed
  | evRun
  | noListen
deriving DecidableEq, Repr, Inhabited

namespace ErrorType

/-- The integer value of a code. -/
def code : ErrorType → Int
  | .success => 0
  | .params => -1
  | .inner => -2
  | .noData => -3
  | .buffLimit => -4
  | .malloc => -5
  | .scheme => -6
  | .badData => -7
  | .invalidSize => -8
  | .notInited => -9
  | .alreadyInited => -10
  | .accessDeny => -11
  | .unpack => -12
  | .pack => -13
  | .atnodeNotFound => -65
  | .atnodeInvalidId => -66
  | .atnodeNoConnection => -67
  | .atnodeFaultTolerant => -68
  | .atnodeInvalidMsg => -69
  | .atnodeBusIdNotMatch => -70
  | .atnodeTtl => -71
  | .atnodeMaskConflict => -72
  | .atnodeIdConflict => -73
  | .channelSizeTooSmall => -101
  | .channelBufferInvalid => -102
  | .channelAddrInvalid => -103
  | .channelClosing => -104
  | .nodeBadBlockNodeNum => -202
  | .nodeBadBlockBuffSize => -203
  | .nodeBadBlockWseqId => -204
  | .nodeBadBlockCseqId => -205
  | .nodeTimeout => -211
  | .shmGetFailed => -301
  | .shmNotFound => -302
  | .sockBindFailed => -401
  | .sockListenFailed => -402
  | .sockConnectFailed => -403
  | .pipeBindFailed => -501
  | .pipeListenFailed => -502
  | .pipeConnectFailed => -503
  | .dnsGetaddrFailed => -601
  | .connectionNotFound => -602
  | .writeFailed => -603
  | .readFailed => -604
  | .evRun => -605
  | .noListen => -606

/-- `ret ? ret : other`: the first error wins. -/
def orElse (ret other : ErrorType) : ErrorType := if ret = .success then other else ret

/-- `res < 0`. -/
def failed (res : ErrorType) : Bool := res.code < 0

/-- Success is the only code that is not a failure. -/
theorem failed_iff (res : ErrorType) : res.failed = true ↔ res ≠ .success := by
  cases res <;> decide

end ErrorType

end LibAtbus
