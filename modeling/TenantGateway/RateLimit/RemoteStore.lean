import TenantGateway.RateLimit.Counter
import TenantGateway.Text.Numeral

/-!
Counters in a remote store, which counts both windows in one script. Here are the script's arguments
and the reading of its reply.
-/

namespace TenantGateway.RateLimit

/-- A reply on the wire. -/
inductive WireValue where
  | integer (n : Int)
  | bulk (s : String)
  | nil
  | status (s : String)
  | array (items : List WireValue)
  | error (text : String)
  deriving Inhabited

/-- The words sent with the script: the number of keys, the keys, limits and lifetimes. -/
def scriptWords (q : CounterQuery) : List String :=
  ["2", q.dailyKey, q.minuteKey, toString q.dailyLimit, toString q.minuteLimit,
    toString q.dailyTtl, toString q.minuteTtl]

/-- Reads a signed 64-bit integer. -/
def readSigned? (s : String) : Option Int :=
  match s.toList with
  | [] => none
  | ['-'] => none
  | '-' :: rest => (Text.readDigits 0x8000000000000000 0 rest).toOption.map fun n => -(n : Int)
  | _ => (Text.readUnsigned 0x7fffffffffffffff s).toOption.map Int.ofNat

namespace WireValue

/-- A signed 64-bit integer, sent as such or as its decimal text. -/
def integer? : WireValue → Option Int
  | .integer n => if -0x8000000000000000 ≤ n ∧ n < 0x8000000000000000 then some n else none
  | .bulk s => readSigned? s
  | .status s => readSigned? s
  | _ => none

/-- The reply as a list of integers: nil is the empty list, and a lone numeral a list of one. -/
def integers? : WireValue → Option (List Int)
  | .nil => some []
  | .array items => items.mapM integer?
  | .bulk s => (readSigned? s).map ([·])
  | _ => none

end WireValue

/-- A count from the wire; a negative one is zero. -/
def replyCount (n : Int) : UInt64 := UInt64.ofNat n.toNat

/-- A remaining life from the wire; a negative one means that there is none. -/
def replyTtl (n : Int) : Option UInt64 := if n < 0 then none else some (UInt64.ofNat n.toNat)

/-- What the script's integers mean. -/
def readReply (values : List Int) : Except StoreError CounterReply :=
  match values with
  | [allowed, reason, daily, minute, dailyTtl, minuteTtl] =>
    let reply (outcome : CounterOutcome) : CounterReply :=
      { outcome
        dailyCount := replyCount daily
        minuteCount := replyCount minute
        dailyTtl := replyTtl dailyTtl
        minuteTtl := replyTtl minuteTtl }
    if allowed = 1 ∧ reason = 0 then .ok (reply .incremented)
    else if allowed = 0 ∧ reason = 1 then .ok (reply .dailyExceeded)
    else if allowed = 0 ∧ reason = 2 then .ok (reply .minuteExceeded)
    else
      .error (.unexpectedReply
        ("unknown outcome (" ++ toString allowed ++ ", " ++ toString reason ++ ")"))
  | values =>
    .error (.unexpectedReply ("expected 6 values, got " ++ toString values.length))

/-- What the remote store's reply means. -/
def readWire (reply : WireValue) : Except StoreError CounterReply :=
  match reply.integers? with
  | some values => readReply values
  | none => .error (.remote "")

end TenantGateway.RateLimit
