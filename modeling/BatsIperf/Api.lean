import BatsIperf.Common

/-!
# The checks on a client configuration

What `IperfBatsApi` asks of the configuration of a sender before it creates the test.
-/

namespace BatsIperf

def maxTransferFiles : Nat := 10

/-- The checks on the configuration of a file sender. The number of streams is compared as a `size_t`. -/
def validateFileSender (fileExists : Path → Bool) (config : TestConfig) : Bool :=
  (config.protocol == 1 || config.protocol == 2) && decide (config.files.length ≤ maxTransferFiles)
    && config.files.any fileExists && decide (Narrowing.unsigned 64 config.numStreams ≤ config.files.length)

def validateClientConfig (fileExists : Path → Bool) (config : TestConfig) : Bool :=
  config.peerHost != "" && isSupportedProtocol config.protocol
    && (config.role != .roleFileSender || validateFileSender fileExists config)

theorem fileSender_protocol {fileExists : Path → Bool} {config : TestConfig} (hrole : config.role = .roleFileSender)
    (hvalid : validateClientConfig fileExists config = true) : config.protocol = 1 ∨ config.protocol = 2 := by
  simp only [validateClientConfig, validateFileSender, hrole, Bool.and_eq_true, Bool.or_eq_true, beq_iff_eq,
    bne_self_eq_false, Bool.false_eq_true, false_or] at hvalid
  exact hvalid.2.1.1.1

end BatsIperf
