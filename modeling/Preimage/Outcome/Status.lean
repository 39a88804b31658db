/-! What became of an attempt to build a pre-image, as the number in a message says it. Zero alone
means success. The catalogue is open: a number that it does not list is a failure of a kind not
known here, and keeps its number. -/
namespace Preimage

inductive Status where
  | ok
  | general
  | internal
  | lowBalance
  | zeroAmountRequested
  | missingPrivateKey
  | wrongFee
  | signing
  | txTooBig
  | missingInputUtxos
  | notEnoughUtxos
  | scriptRedeem
  | scriptOutput
  | scriptWitnessProgram
  | invalidMemo
  | invalidPrivateKey
  | invalidAddress
  | invalidUtxo
  | invalidUtxoAmount
  | inputParse
  | noSupportN2n
  | signaturesCount
  | invalidParams
  | invalidRequestedTokenAmount
  | notSupported
  | dustAmountRequested
  /-- Not in the catalogue. Nothing keeps a listed number from being carried this way. -/
  | unrecognized (code : Int32)
deriving Repr, DecidableEq

namespace Status

def code : Status → Int32
  | ok => 0
  | general => 1
  | internal => 2
  | lowBalance => 3
  | zeroAmountRequested => 4
  | missingPrivateKey => 5
  | wrongFee => 6
  | signing => 7
  | txTooBig => 8
  | missingInputUtxos => 9
  | notEnoughUtxos => 10
  | scriptRedeem => 11
  | scriptOutput => 12
  | scriptWitnessProgram => 13
  | invalidMemo => 14
  | invalidPrivateKey => 15
  | invalidAddress => 16
  | invalidUtxo => 17
  | invalidUtxoAmount => 18
  | inputParse => 19
  | noSupportN2n => 20
  | signaturesCount => 21
  | invalidParams => 22
  | invalidRequestedTokenAmount => 23
  | notSupported => 24
  | dustAmountRequested => 25
  | unrecognized code => code

/-- Every status that has a name of its own, by ascending code. -/
def catalogue : List Status :=
  [ok, general, internal, lowBalance, zeroAmountRequested, missingPrivateKey, wrongFee, signing,
    txTooBig, missingInputUtxos, notEnoughUtxos, scriptRedeem, scriptOutput, scriptWitnessProgram,
    invalidMemo, invalidPrivateKey, invalidAddress, invalidUtxo, invalidUtxoAmount, inputParse,
    noSupportN2n, signaturesCount, invalidParams, invalidRequestedTokenAmount, notSupported,
    dustAmountRequested]

def ofCode (code : Int32) : Status :=
  (catalogue.find? fun status => status.code == code).getD (unrecognized code)

@[simp] theorem code_ofCode (code : Int32) : (ofCode code).code = code := by
  simp only [ofCode]
  cases found : catalogue.find? fun status => status.code == code with
  | none => rfl
  | some status => simpa using List.find?_some found

theorem ofCode_code {status : Status} (listed : status ∈ catalogue) :
    ofCode status.code = status := by
  revert status
  decide

def isOk (status : Status) : Bool := status.code == 0

/-- Whether the status was taken from the catalogue, which is not the same as having a code in it.
-/
def isKnown : Status → Bool
  | unrecognized _ => false
  | _ => true

def name : Status → String
  | ok => "ok"
  | general => "general"
  | internal => "internal"
  | lowBalance => "low_balance"
  | zeroAmountRequested => "zero_amount_requested"
  | missingPrivateKey => "missing_private_key"
  | wrongFee => "wrong_fee"
  | signing => "signing"
  | txTooBig => "tx_too_big"
  | missingInputUtxos => "missing_input_utxos"
  | notEnoughUtxos => "not_enough_utxos"
  | scriptRedeem => "script_redeem"
  | scriptOutput => "script_output"
  | scriptWitnessProgram => "script_witness_program"
  | invalidMemo => "invalid_memo"
  | invalidPrivateKey => "invalid_private_key"
  | invalidAddress => "invalid_address"
  | invalidUtxo => "invalid_utxo"
  | invalidUtxoAmount => "invalid_utxo_amount"
  | inputParse => "input_parse"
  | noSupportN2n => "no_support_n2n"
  | signaturesCount => "signatures_count"
  | invalidParams => "invalid_params"
  | invalidRequestedTokenAmount => "invalid_requested_token_amount"
  | notSupported => "not_supported"
  | dustAmountRequested => "dust_amount_requested"
  | unrecognized _ => "unrecognized"

/-- What to tell a reader when a failure came without a text of its own. -/
def description : Status → String
  | ok => ""
  | general => "Unknown error"
  | internal => "Internal error"
  | lowBalance => "Low balance: the sender balance is not enough to cover the send and other " ++
      "auxiliary amount such as fee, deposit, or minimal balance"
  | zeroAmountRequested => "Requested amount is zero, send of 0 makes no sense"
  | missingPrivateKey => "One required key is missing (too few or wrong keys are provided)"
  | wrongFee => "A fee is required but not provided or is invalid"
  | signing => "General signing error"
  | txTooBig => "Resulting transaction is too large"
  | missingInputUtxos => "No input UTXOs provided"
  | notEnoughUtxos => "Not enough non-dust input UTXOs to cover requested amount"
  | scriptRedeem => "Missing required redeem script"
  | scriptOutput => "Invalid required output script"
  | scriptWitnessProgram => "Unrecognized witness program"
  | invalidMemo => "Invalid memo"
  | invalidPrivateKey => "Invalid private key"
  | invalidAddress => "Invalid address"
  | invalidUtxo => "Invalid input UTXO"
  | invalidUtxoAmount => "Invalid input UTXO amount"
  | inputParse => "Failed to parse the transaction input"
  | noSupportN2n => "Multi-input and multi-output transfer is not supported"
  | signaturesCount => "Signature count does not match the number of inputs"
  | invalidParams => "Invalid input parameter"
  | invalidRequestedTokenAmount => "Invalid requested token amount"
  | notSupported => "Operation not supported for this chain"
  | dustAmountRequested => "Requested amount is too low (below the dust threshold)"
  | unrecognized _ => "Unrecognized error code"

/-- The name, with the number where the name alone does not give it. -/
def label : Status → String
  | unrecognized code => s!"unrecognized({code})"
  | known => known.name

end Status
end Preimage
