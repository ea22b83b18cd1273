import LogThrottle.Duration.Text

/-! Quotas: how many events of one topic pass in one period. Both numbers are positive; a zero
limit is reported before a zero period. -/
namespace LogThrottle

structure Quota where
  limit : UInt32
  period : Duration
  limit_pos : 0 < limit
  period_pos : 0 < period.nanos
  deriving DecidableEq

inductive QuotaError where
  | zeroLimit | zeroPeriod
  deriving DecidableEq

def QuotaError.message : QuotaError → String
  | zeroLimit => "max_rate must be greater than 0"
  | zeroPeriod => "period must be greater than 0"

namespace Quota

instance : Inhabited Quota := ⟨⟨1, ⟨1, by decide⟩, by decide, by decide⟩⟩

def of (limit : UInt32) (period : Duration) : Except QuotaError Quota :=
  if hl : 0 < limit then
    if hp : 0 < period.nanos then .ok ⟨limit, period, hl, hp⟩ else .error .zeroPeriod
  else .error .zeroLimit

def text (q : Quota) : String := toString q.limit ++ " per " ++ q.period.text

end Quota
end LogThrottle
