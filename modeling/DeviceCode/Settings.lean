import DeviceCode.Handle
import DeviceCode.Host.Path
import DeviceCode.Kernel.Packet
import DeviceCode.Text.Blank
import DeviceCode.Text.Numeral
import DeviceCode.Text.Quoted

/-!
# Loader settings

Settings shared by every load and launch of one loader. The environment can choose the fence scope,
the host image and its load bias.
-/

namespace DeviceCode

structure LoaderSettings where
  flushMode : FlushMode := .system
  /-- The program image whose symbols resolve what device code leaves undefined. -/
  hostImage : String := Host.ownImage
  /-- The address at which the host image's address zero is mapped; found out when absent. -/
  loadBias : Option UInt64 := none
  deriving DecidableEq, Repr

/-- An address in decimal, or in hexadecimal after a `0x` mark of either case. -/
def parseAddress? (text : String) : Option UInt64 :=
  let number := match Text.trimChars text.toList with
    | '0' :: 'x' :: digits => Text.numeral? 16 digits
    | '0' :: 'X' :: digits => Text.numeral? 16 digits
    | digits => Text.numeral? 10 digits
  number.map UInt64.ofNat

namespace LoaderSettings

/-- The settings that the environment asks for. -/
def ofEnvironment (env : String → Option String) : LoaderSettings where
  flushMode := if (env "CODEOBJ_OPT_FLUSH").any Text.isYes then .agent else .system
  hostImage := ((env "CODEOBJ_HOST_IMAGE").filter (Text.trim · != "")).getD Host.ownImage
  loadBias := (env "CODEOBJ_HOST_LOAD_BIAS").bind parseAddress?

/-- Nothing differs from the default settings; the host image may be written in another way. -/
def isDefault (s : LoaderSettings) : Bool :=
  s.flushMode == .system && Host.samePath s.hostImage Host.ownImage && s.loadBias.isNone

def describe (s : LoaderSettings) : String :=
  s!"LoaderConfig \x7b flush_mode: {s.flushMode.name}, host_image: {Text.quoted s.hostImage}, "
    ++ s!"host_load_bias: {describeOption (s.loadBias.map (toString ·.toNat))} \x7d"

end LoaderSettings

end DeviceCode
