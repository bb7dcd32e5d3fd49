/-
  LiveTrader.ReasonCode

  The reasons that the runtime itself gives.  Every code in a report, a progress
  record or an audit event is one of these or a code of the strategy.
-/

namespace LiveTrader

/-- A reason of the runtime. -/
inductive ReasonCode
  | maxDrawdownExceeded
  | dailyLossLimitExceeded
  | maxPositionSizeExceeded
  | maxTradeLossExceeded
  | maxLeverageExceeded
  | walletDriftExceeded
  | skippedDueToRisk
  | executeOrdersDisabled
  | liveHttpDisabled
  | noTradeSetup
  | confidenceBelowThreshold
  | orderSizeTooSmall
  | duplicateOrderAttempt
  | orderPlaceFailed
  | orderRejected
  | orderFetchFailed
  | orderCancelFailed
  | streamReconnecting
  | streamDegraded
  deriving DecidableEq

namespace ReasonCode

/-- Every reason, guards first, then orders, then streams. -/
def all : List ReasonCode := [
  maxDrawdownExceeded, dailyLossLimitExceeded, maxPositionSizeExceeded, maxTradeLossExceeded,
  maxLeverageExceeded, walletDriftExceeded, skippedDueToRisk, executeOrdersDisabled,
  liveHttpDisabled, noTradeSetup, confidenceBelowThreshold, orderSizeTooSmall,
  duplicateOrderAttempt, orderPlaceFailed, orderRejected, orderFetchFailed, orderCancelFailed,
  streamReconnecting, streamDegraded]

/-- The code of a reason. -/
def text : ReasonCode → String
  | maxDrawdownExceeded => "max_drawdown_exceeded"
  | dailyLossLimitExceeded => "daily_loss_limit_exceeded"
  | maxPositionSizeExceeded => "max_position_size_exceeded"
  | maxTradeLossExceeded => "max_trade_loss_exceeded"
  | maxLeverageExceeded => "max_leverage_exceeded"
  | walletDriftExceeded => "wallet_drift_exceeded"
  | skippedDueToRisk => "skipped_due_to_risk"
  | executeOrdersDisabled => "execute_orders_disabled"
  | liveHttpDisabled => "live_http_disabled"
  | noTradeSetup => "no_trade_setup"
  | confidenceBelowThreshold => "confidence_below_threshold"
  | orderSizeTooSmall => "order_size_too_small"
  | duplicateOrderAttempt => "duplicate_order_attempt"
  | orderPlaceFailed => "order_place_failed"
  | orderRejected => "order_rejected"
  | orderFetchFailed => "order_fetch_failed"
  | orderCancelFailed => "order_cancel_failed"
  | streamReconnecting => "stream_reconnecting"
  | streamDegraded => "stream_degraded"

/-- Whether a text is the code of a reason of the runtime. -/
def isKnown (code : String) : Bool :=
  all.any fun r => r.text == code

end ReasonCode

end LiveTrader
