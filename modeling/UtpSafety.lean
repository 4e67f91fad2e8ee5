import UtpSafety.Proof.Flush
import UtpSafety.Proof.Perfect
import UtpSafety.Proof.Quiet
import UtpSafety.Proof.Agreement
import UtpSafety.Proof.Held
import UtpSafety.Proof.EndOfStream
import UtpSafety.Proof.Bookkeeping
import UtpSafety.Proof.Dispatch
import UtpSafety.Proof.Vacancy
import UtpSafety.Proof.Whole
import UtpSafety.Proof.Delays
import UtpSafety.Proof.Pipeline
import UtpSafety.Proof.Loss
import UtpSafety.Proof.Attentive
import UtpSafety.Proof.Clocks
import UtpSafety.Proof.Pipes
