import TokenBridge.Evm.Contract
import TokenBridge.Proofs.Evm.Abi

namespace TokenBridge.Contract

theorem withdrawSelector_eq : withdrawSelector = [0x9A, 0x49, 0x3E, 0x75] := by decide +kernel

theorem balanceOfSelector_eq : balanceOfSelector = [0x70, 0xA0, 0x82, 0x31] := by decide +kernel

theorem decimalsSelector_eq : decimalsSelector = [0x31, 0x3C, 0xE5, 0x67] := by decide +kernel

theorem symbolSelector_eq : symbolSelector = [0x95, 0xD8, 0x9B, 0x41] := by decide +kernel

namespace Call

theorem arguments_encode (strict : Bool) {ks : List Abi.Kind} {row : Abi.Row ks}
    (hfits : (Abi.encode ks row).length < 2 ^ 64) :
    arguments strict ks (Abi.encode ks row) = some row := by
  cases strict with
  | true => exact Abi.decode_encode hfits
  | false => exact Abi.decodeLoosely_encode hfits

theorem arguments_nil (strict : Bool) : arguments strict [] [] = some () :=
  arguments_encode strict (by decide : (Abi.encode [] ()).length < 2 ^ 64)

theorem decode_data (strict : Bool) {call : Call} (hfits : call.data.length < 2 ^ 63) :
    decode strict call.data = some call := by
  cases call with
  | withdraw amount destination network =>
    rw [data, withdrawSelector_eq, List.length_append] at hfits
    have hlength : (Abi.encode [.word, .text, .text] (amount, destination, network, ())).length < 2 ^ 64 := by
      omega
    rw [decode, data, withdrawSelector_eq]
    simp [arguments_encode strict hlength]
  | balanceOf account =>
    rw [data, List.length_append] at hfits
    have hlength : (Abi.encode [.address] (account, ())).length < 2 ^ 64 := by omega
    rw [decode, data, withdrawSelector_eq, balanceOfSelector_eq]
    simp [arguments_encode strict hlength]
  | decimals =>
    rw [decode, data, withdrawSelector_eq, balanceOfSelector_eq, decimalsSelector_eq]
    simp [arguments_nil]
  | symbol =>
    rw [decode, data, withdrawSelector_eq, balanceOfSelector_eq, decimalsSelector_eq, symbolSelector_eq]
    simp [arguments_nil]

end Call
end TokenBridge.Contract
