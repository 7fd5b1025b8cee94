/-!
Character data for Unicode 14: the sets of characters with a property, and the case maps.

A set is stored as the code points where membership changes, as differences from the
previous one. A case map is stored as groups of characters, evenly spaced, that move by the
same offset, then the characters whose image has more than one character. Numbers are in the
packed digits of `Text.readPackedNumbers`; offsets are folded to naturals, even for forward
and odd for backward.
-/

namespace Dashwright.Text.Unicode

/-- Letters: the five letter categories. -/
def alphaBounds : List String := [
  "#ejUj#RPYPSPTgPoP,bS[^TVPPP$yTPQQSPPUPPRPPPdP#wP%VW%rPvQPUy#kkSS#P|sQP$ZPP_QVQYRQP`PPnm$PZPhqXQS",
  "PTfSPXPRPgiVZThPUaz#^#YRPbPVY_`SWQQQfPVPPRSRP`P]QPR^QYPWUSQQfPVPQPQPQoSPPcR`XPRPfPVPQPTRPbP_QgPZ",
  "WQQQfPVPQPTRPnQPR_PaPPURRPSRQPPPQRQRRR[fP#WWPRPgP`RPjRQPQQnPSWPRPgPYPTRPoQPQ_QaXPRPyQP`PTRWRhUTb",
  "RhPXPPQV#^#SPQ[V#^QPPPTPhPPPYPQXPQTPPeSpP#cWPtkT$k|dP`USSRPRQVRS][PavPPTPQ|P)iPSQVPPPSQyPSQqPSQV",
  "PPPSQ_P#]PSQ#gu``#zQUR0SQaPjT#oUWVb]c^b^]PR_#WsPSP#g$PVTQrPPT#jYo#TnQTZ#OSj#YgX#X#vP$T#RaW#Yn]QY",
  "#OjtyRYtQXV|QRySPUPQRPT&`#d(^QUQvQUQWPPPPPPPoQ#XPVPPRRPVRSQUS]TRPV$lP]P`]$]PSPQYPPRTUPPPPPPSPZQS",
  "TTSP#WQ#2|'XUSRQ[vPPTPQ#[VP`gXVPVPVPVPVPVPVPV#tP,mQzTTQS#zURP$QPST|P$Uap#S`-l%3t#d-5i#g#QQ(TR`YQ",
  "d#R`oQ#j#TXQ$_Q#dTQPPPTh`PRPSPgm#W^#U#bURPPQZlYgimV#RlP`TPYYTPygRPWdgRPR#UPPRQQTQPPPhRQZVR[UQUQU",
  "XVPVP|P^U$km'Dx[gS#T&2S*^Q$bvV[TTPPYP]PTPPPQPQP$dq*Zb#dQ#Yx[$lTP%RtjUjZ$PRUQUQUQRs[PjPcPQP_Q^r$s",
  "*umR#T#Rp]dPWUvYnQtSW#S%jbtStSxW#W[ZP_PVPQPZP_PVPQ#g)RXfYWhUPzPX#iUQPP#OPQRPQgYgXo#ecPQYfYj#j#[U",
  "Q#dP_SPRPmzmRmsWPlk#YYfYc]b$f#m#Z#V]#V]t)xzUQ#rmYPWfzb#Qekg[#X#]QQP]#PpijtmPQPWsRP[#S^SePPPsbPi#",
  "xVPPPSP_PYV#RvWQQQfPVPQPTRPbP[T%j#XbSdRn#SdQPP&W#RySt#SdP#_|]P#kkuV&X#O$l#doWQPQWPQPh_PPP$UWQw`P",
  "PPlPYxVPePZ#QcPb#m'|XPuaP#Tn$hVPQPvePiUPQPp^P)cc&]P#s6z'Y&d#1x$X_:_$&P/Z&6X.yVoa#sanb#S`SoeTc1l#",
  "d$x#oTP#f]#dQPPl%)dW>UzX&=RSPVPQP(k#PRaSW+O#*d$cT]RXVY%&U#yP#kPQQPQQQSP[PPPVP#ePSQWPVPlPSPTPPRVP",
  ")pQiPiPoPiPoPiPoPiPoPiPWLxo,y#PYV`P)]nb#O>tVPSPQP_P&e#_#hVP=`SPkPQPPQPPYPSPPPPUPSPPPPPPRPQPPQPPP",
  "PPPPPPPQPPQSPVPSPSPPPYPaTRPTPa$.d8$xp$(aV'QQ$Mz^%Hu#<g.^EY$:Z"
]

def decimalBounds : List String := [
  "#SYFrY%QY&fY+`Y$nY$nY$nY$nY$nY$nY$nY$nY$nY$WY$nY#jY(^Y#jYM^YvY(tY$xY%rYUY&UY#zY%QYUY4+jY1bYvY&fY",
  "fY#zY+YY,NbYCUY#'jY4dY$xY#`Y%[Y(^Y)rY$nY*fY$^Y$^Y+jY$^Y3YY'jY#jY,(^Y#zY%QY01O#U#+tY+jYGvY$6UY"
]

/-- Digits: decimal digits and the other characters with a digit value. -/
def digitBounds : List String := [
  "#SY$pQTPCvY%QY&fY+`Y$nY$nY$nY$nY$nY$nY$nY$nY$nY$WY$nY#jY(^Y#jY2_X;rYvY(tY$xZ%qYUY&UY#zY%QYUY9rPR",
  "UUY8^XZXZX$PPYXPP0^XPXPX2C]Y1bYvY&fYfY#zY+YY,NbYCUYCfS3OY(nX-TXZY$xY#`Y%[Y(^Y)rY$nY*fY$^Y$^Y+jY$",
  "^Y3YY'jY#jY,(^Y#zY%QY01O#U#+tY+jYGvY#!fZ#5aY"
]

def numericBounds : List String := [
  "#SY$pQTPQRCqY%QY&fY+`Y$nYSU$dY$nY$nYQU$f]$kYWV$_Y$`VVc$eY$WY$nY#jd(SY#jY2_d6PR'cYUYfY(tY$xZ%qYUY",
  "&UY#zY%QYUY9rPRUUY&f#VQT2f#`#rf0^nBeP3mPiX^R)sS%UYnWP_pYw_)aP$uP7YP4YP$6rPQPRPPP#wP#QPVPPPxQnPWP",
  "tP$YP+VP#ePrPPPPP,kPPRUP$lS3zP.TPVPCOP$|Q[RPP8uP#qP<]PLwP<gP2wP#0_P7XP#'ePSP$tP#*OPtPTP|P$uP$!XY",
  "&[Y)[U%fYvY&fYfY#zY+YY,,iPVPSP#]PnPPPyP?fY-X#P[#]aQ)qktSmPWP%QT&jY7bWiVwX#oTfU%lQQ`Q#Q#dX#WQnR#o",
  "T$`WhWyV)fU#SY(no%jYzS$hV%Qn$xY#`Y%[YVd'oY)rY$nY*fY$^Y$^[+hc$TY3Ym'VY#jY.Ue:Z$g+,yY#zY%QYPV4Ug/-",
  "ed$di;X#U#+tY+jYDqX$xY3|#_PRPS#p#PP_7v]#5_Y9cP$YP$uP#bP#$pP$OPWP_P)iPbPkP%,^PFRP$/vP'*qP5HfP"
]

/-- Printable characters: all but the other, separator and unassigned categories, the space apart. -/
def printableBounds : List String := [
  "p$Vr[P2YQUSVPPPdP+PPvQ#UQRP#ZWkSUafP&`P#SQ#_Q$]^#_Q#TQ_PlQPPZToX#nP%mPWQQQfPVPPRSQXQQQSWPSQPTQiQ",
  "RPUSQQfPVPQPQPQQPPTSQQRRPVSPPVaYRPXPRPfPVPQPTQYPRPRQP_SQ[VVPRPWQQQfPVPQPTQXQQQRVRSQPTQbYQPURRPSR",
  "QPPPQRQRRR[STRRPSQPUP^eT]PRPgP`QXPRPSVQPRQPQSQYVfPRPgPYPTQXPRPSVQUQPSQYPQ]]PRP#VPRPUS`QjPRPbRhPX",
  "PPQVRPSUPPPWUYQR[#^SmuQPPPTPhPPPgQTPPPUQYQSp#lPtSwPtP_P]u&fPPTPQ*iPSQVPPPSQyPSQqPSQVPPPSQ_P#]PSQ",
  "#gQpRjU#zQUQ0hPlR$PVfXhXd[]PRPQ[$UQYUYU^PZU$PV|T#jYoP[S[SPRzQTZ#OSjUZR#bQ#ePmQZUYU^Qo#T#qR#RP$lW",
  "#`R_R#`V|QZW|T.UQUQvQUQWPPPPPPPoQ#XP_P^QUPcQRPXahW#RaQQkP]Rq_q_%WS1RiZeLWQpP)yT#PPPTPQ#[VQ^hXVPV",
  "PVPVPVPVPVPVP$vrjP$P[&vj[T#cP#zQ$_T|P$UP#x[#RP1'qR#ZX)xd&WW&kTQPPPTh#_RYU#[W#jW[U$lZnR#rPZSqP#ZX",
  "^QYQ$_hlYUQUQUXVPVP#`S$vQYU'Dx[gS#T&2S*^Q$bvV[TTjPTPPPQPQP$u`,TQ#YVPpzU#VPcPSSTP%RS&^RUQUQUQRRVP",
  "V]QQ[PjPcPQP_Q^r$sTRS#PR$OP]RP#R#Q$zmR#T_lStXnT|TnPuS^z%jQYUtStSxW#WZ[P_PVPQPZP_PVPQ#g)RXfYWhUPz",
  "PX#iUQPP#OPQRPQgP#lWX#ScPQTqRkTP#d#[SdQ#UPQTWPRPmQRSYVXV#dpwS[X#YRmQkTjVS[V#t#m#Z#V]#VV#QWY(noPz",
  "PRQQ#rxWzfjvldgX#rStX#bPT]iVYU#XPbWwX$WPdZbP#O#eVPPPSP_PZU#_TYUSPWQQQfPVPQPTPYQQQRQPUPTVQVRT%V$S",
  "PTn#lWY%r#YQvr#iZYU]c#^UY#YkQ_Sg&X#`$[#w[WQPQWPQPnPQQ[XY#jWQ#QQZk#lW#w]#m'|XP#PP^YmRpQfP^#mVPQP#",
  "ORPPQPXWYUUPQPuPQPUVY)Qi&VP_#U]6|$^$gPTZ&d#1x$Z]:_$&P/Z&6X.yVoPYS#uPYUnQUY#jYYPVPeTc1l$R$]#oS#]V",
  "a#dTZQ^%)dW>UzX&=RSPVPQP(k#PRaSW+O#*d$cT]RXVYQS$4x#QQgX$l#`'jYwQ#nW$he#j%fd[#|Xi%R#yP#kPQQPQQQSP",
  "[PPPVP#ePSQWPVPlPSPTPPRVP)pQ(lQ1z_TP_;So'TVPaQVPQPT&u#PR^QYSQ)[oa#^TP>`VPSPQP_P&eQ`y#pSYSQ3u#h#p",
  "#a&bSPkPQPPQPPYPSPPPPUPSPPPPPPRPQPPQPPPPPPPPPPQPPQSPVPSPSPPPYPaTRPTPa#WQ(U#OS$[[_Q_P_PuY%z#[m]#O",
  "SXVQ^U%f8`T`R]R$l[$PV[SP_[S#[WYUxWnQQ#r)p[^QTRTRVXmRZTUYYUWWVX%_P#ZuY9b8$xp$(aV'QQ$Mz^%Hu#<g.^EY",
  "$:Z*3Li'd"
]

/-- Characters that may start an identifier, the underscore included. -/
def identStartBounds : List String := [
  "#ejSPPj#RPYPSPTgPoP,bS[^TVPPP$yTPQRRPPUPPRPPPdP#wP%VW%rPvQPUy#kkSS#P|sQP$ZPP_QVQYRQP`PPnm$PZPhqX",
  "QSPTfSPXPRPgiVZThPUaz#^#YRPbPVY_`SWQQQfPVPPRSRP`P]QPR^QYPWUSQQfPVPQPQPQoSPPcR`XPRPfPVPQPTRPbP_Qg",
  "PZWQQQfPVPQPTRPnQPR_PaPPURRPSRQPPPQRQRRR[fP#WWPRPgP`RPjRQPQQnPSWPRPgPYPTRPoQPQ_QaXPRPyQP`PTRWRhU",
  "TbRhPXPPQV#^#SPP]V#^QPPPTPhPPPYPPYPQTPPeSpP#cWPtkT$k|dP`USSRPRQVRS][PavPPTPQ|P)iPSQVPPPSQyPSQqPS",
  "QVPPPSQ_P#]PSQ#gu``#zQUR0SQaPjT#oRZVb]c^b^]PR_#WsPSP#g$PVyPPT#jYo#TnQTZ#OSj#YgX#X#vP$T#RaW#Yn]QY",
  "#OjtyRYtQXV|QRySPUPQRPT&`#d(^QUQvQUQWPPPPPPPoQ#XPVPPRRPVRSQUS]TRPV$lP]P`]$]PSPQYPPQUUPPPPPP`QSTT",
  "SPay#2w'XUSRQ[vPPTPQ#[VP`gXVPVPVPVPVPVPVPV.fRiXVTQTS#zURP$QPST|P$Uap#S`-l%3t#d-5i#g#QQ(TR`YQd#R`",
  "oQ#twXQ$_Q#dTQPPPTh`PRPSPgm#W^#U#bURPPQZlYgimV#RlP`TPYYTPygRPWdgRPR#UPPRQQTQPPPhRQZVR[UQUQUXVPVP",
  "|P^U$km'Dx[gS#T&2S*^Q$bvV[TTPPYP]PTPPPQPQP$dq%VU&zb#dQ#YxY$oPPPRPPPPPPPP$vtjUjZ#[QoRUQUQUQRs[PjP",
  "cPQP_Q^r$s#i#X(RmR#T#Rp]nTvYnQtSWPTz%jbtStSxW#W[ZP_PVPQPZP_PVPQ#g)RXfYWhUPzPX#iUQPP#OPQRPQgYgXo#",
  "ecPQYfYj#j#[UQ#dP_SPRPmzmRmsWPlk#YYfYc]b$f#m#Z#V]#V]t)xzUQ#rmYPWfzb#Qekg[#X#]QQP]#PpijtmPQPWsRP[",
  "#S^SePPPsbPi#xVPPPSP_PYV#RvWQQQfPVPQPTRPbP[T%j#XbSdRn#SdQPP&W#RySt#SdP#_|]P#kkuV&X#O$l#doWQPQWPQ",
  "Ph_PPP$UWQw`PPPlPYxVPePZ#QcPb#m'|XPuaP#Tn$hVPQPvePiUPQPp^P)cc&]P#s6z$^$ga&d#1x$X_:_$&P/Z&6X.yVoa",
  "#sanb#S`SoeTc1l#d$x#oTP#f]#dQPPl%)dW>UzX&=RSPVPQP(k#PRaSW+O#*d$cT]RXVY%&U#yP#kPQQPQQQSP[PPPVP#eP",
  "SQWPVPlPSPTPPRVP)pQiPiPoPiPoPiPoPiPoPiPWLxo,y#PYV`P)]nb#O>tVPSPQP_P&e#_#hVP=`SPkPQPPQPPYPSPPPPUP",
  "SPPPPPPRPQPPQPPPPPPPPPPQPPQSPVPSPSPPPYPaTRPTPa$.d8$xp$(aV'QQ$Mz^%Hu#<g.^EY$:Z"
]

def identContinueBounds : List String := [
  "#SYVjSPPj#RPYPPPQPTgPoP,bS[^TVPPPa$mPQRRPPUTPPPdP#wP%VPTQ%rPvQPUyW#PPPPQPQPPWkSSmZT#nS$^PWQYPcQP",
  "`#_Q$]^#YSPQPQ#QblSZThPUX#nP$yQYPcPWQQQfPVPPRSQXQQQSWPSQPTQ[YPPPQRPUSQQfPVPQPQPQQPPTSQQRRPVSPPV`",
  "ZRPXPRPfPVPQPTQYPRPRQP_SQYXVPRPWQQQfPVPQPTQXQQQRVRSQPTQYPP`QPURRPSRQPPPQRQRRR[STRRPSQPUP^Y`]PRPg",
  "P`QXPRPSVQPRQPQSQY`SPWPRPgPYPTQXPRPSVQUQPSQYPQ]]PRP#VPRPTTSVTQYYUPRPbRhPXPPQVRPSUPPPWUYQQ]#^T_PY",
  "wQPPPTPhPPPgQTPPPUQYQSpPgQUYZPPPPPSYPtSdPbPtXP#]#nU#rQvPPTPQ|P)iPSQVPPPSQyPSQqPSQVPPPSQ_P#]PSQ#g",
  "QRXX^``#zQUR0SQaPjT#oRZVfXfZd[]PRPQ[#xRPSQQYqRPZU$PV|T#jYoP[S[YxQTZ#OSjUZulS#cPmQZUY]PW^P`#T#qRY",
  "aX[$l[#[WYR#TQXV|QR`RPwT.UQUQvQUQWPPPPPPPoQ#XPVPPRRPVRSQUS]TRPV#fQcPlP]P`]#V]SPR[aPSPQYPPQUUPPPP",
  "PP`QSTTSPay#2w'XUX[vPPTPQ#[VP_hXVPVPVPVPVPVPVPVPp-qRi_PTQTS#zQQQRP$QPST|P$Uap#S`-l%3t#d-5i#g#QQ(",
  "TRld#SSYP$kuXQ$_Q#dTQPPPTh#YSPc#W[#jYYUhRPP#TQt[mR#e^ZUoP#ZX^QYUgR#mhRQ`QTYUQUQUXVPVP|P^U$sPQQYU",
  "'Dx[gS#T&2S*^Q$bvV[TT[P]PTPPPQPQP$dq%VU&zb#dQ#YxYU```RQhRqPPPRPPPPPPPP$vcYVjSPPjZ$PRUQUQUQRs[PjP",
  "cPQP_Q^r$s#i#X%SP$zmR#T_Pop]nT|TnQtSWPTz%jQYUtStSxW#W[ZP_PVPQPZP_PVPQ#g)RXfYWhUPzPX#iUQPP#OPQRPQ",
  "gYgXo#ecPQYfYj#j#[UQ#dSPQTWPRPmQRSPpmRmsWPni#YYfYc]b$f#m#Z#V]#V]xWY)bzPQRQ#rmYPWqofzekgX#ko`X#`V",
  "P]iVYU#XPYSSWtQPX#iSSP]PPsbPuUP#eVPPPSP_PYV#_TYUSPWQQQfPVPQPTPYQQQRQPUPTVQVRT%V#oTYSSn#jPPWY%r#Y",
  "QXgUr#eRPZYv#]VY#YkQ_SYUV&X#_$]#neWQPQWPQPnPQQX[Y#jWQ#QQWPQk#cWPW#nRPb#m'|XP#PPX_YhnQfP^#mVPQP#O",
  "RPPQPXWYUUPQPuPQPUVY)Qg&XP#s6z$^$ga&d#1x$X_:_$&P/Z&6X.yVoPYU#sPYUnQTZ#ZXS[YXeTc1l#d$x#oS#]Va#dQP",
  "QZQ^%)dW>UzX&=RSPVPQP(k#PRaSW+O#*d$cT]RXVYRQ$4y#QQg.^TRUWWQVnS%`R,R#yP#kPQQPQQQSP[PPPVP#ePSQWPVP",
  "lPSPTPPRVP)pQiPiPoPiPoPiPoPiPoPiPWQ#U-l#ZS#UWP^PfTP_;So'TVPaQVPQPT&u#PR^QYSP)]oa#^>fVPSPQP_P&eZV",
  "y#pSY=QSPkPQPPQPPYPSPPPPUPSPPPPPPRPQPPQPPPPPPPPPPQPPQSPVPSPSPPPYPaTRPTPa#CtY9b8$xp$(aV'QQ$Mz^%Hu",
  "#<g.^EY$:Z*3Li'd"
]

def lowerBounds : List String := [
  "$Xj#RPYPSPthPWPPPPPPPPPPPPPPPPPPPPPPPPPPPPPPPPPPPPPPPPPPPPPPPPPPPPPPPQPPPPPPPPPPPPPPPQPPPPPPPPPP",
  "PPPPPPPPPPPPPPPPPPPPPPPPPPPPPPPPPPPPQPPPPRQPPPQPRQSPQPRRQPQPPPPPQPPQPPQPRPPPQQQRUPQPQPPPPPPPPPPP",
  "PPPPPQPPPPPPPPPPPPPPPPPQQPPPRPPPPPPPPPPPPPPPPPPPPPPPPPPPPPPPPPPPPPPPPPPPPPPPPPPPPPPPPPPVQPQQPPSP",
  "PPPPPPP#iPtVQnT$WP|PPPRPQSbPksPQRRPPPPPPPPPPPPPPPPPPPPPPPTPPQPQQ#V#SPPPPPPPPPPPPPPPPPPPPPPPPPPPP",
  "PPPPPPXPPPPPPPPPPPPPPPPPPPPPPPPPPPPPPPPPPPPPPPPPPPPPPPPPPPPPQPPPPPPPPPPPPQPPPPPPPPPPPPPPPPPPPPPP",
  "PPPPPPPPPPPPPPPPPPPPPPPPPPPPPPPPPPPPPPPPPPPPPPPPPPPPPPPPPPPPPPPPPPPPPPPPPP#Sy#7k|QR3[U#'fX$o&`#e",
  "PPPPPPPPPPPPPPPPPPPPPPPPPPPPPPPPPPPPPPPPPPPPPPPPPPPPPPPPPPPPPPPPPPPPPPPPPPPPPPPPPPPPPPPPPPPPPPPP",
  "PPPPPPPPPPPPPPPPPPPPPPPPPPPPPPPPPPPPPPPPPPPPPPPPPPPPXPPPPPPPPPPPPPPPPPPPPPPPPPPPPPPPPPPPPPPPPPPP",
  "PPPPPPPPPPPPPPPPPPPPPPPPPPPPPPPPPPPPPPPPPPPPPPPPPPPPPPXWUYWWWWUYWWWW^QWWWWWWTPQUPRRPQWSQQWWYRPQ$",
  "qP]P`]$ePRQRPkPSPSPQQWSSPq`SP5VjM^#SPPRQPPPPPPSPPQPWRPPPPPPPPPPPPPPPPPPPPPPPPPPPPPPPPPPPPPPPPPPP",
  "PPPPPPPPPPPPPPPPPPPPPPPPPPPPPPPPPPPPPPPPPPPPPPPPPPPPPPPQVPPPSP[vPPTP2!cPPPPPPPPPPPPPPPPPPPPPPPPP",
  "PPPPPPPPPPPPPPPPPPPPcPPPPPPPPPPPPPPPPPPPPPPPPPPR%PPPPPPPPPPPPPRPPPPPPPPPPPPPPPPPPPPPPPPPPPPPPPPP",
  "PPPPPPPPPPPPPPPPPPPPPPPPPPPPYPPPPQPPPPPPPPPSPPPQPPRPPPPPPPPPPPPPPPPPPPPTPTPPPPPPPPPPPPPPPSPPPUPP",
  "PPPPPPPlPPR4m|P]V#t,7SV[T:Xj=yx%St%gZP_PVPQ,ZPQRPzPX?X#V#:mp-/dp/5UjjVPbjjjSPPPVPZjjjjjjjjjjjjjj",
  "jjjlliPUjiPUjiPUjiPUjiPUPPLxYPd#0Zr"
]

def upperBounds : List String := [
  "#ej$]gPVqPPPPPPPPPPPPPPPPPPPPPPPPPPPPPPPPPPPPPPPPPPPPPPPPPPPPPPPQPPPPPPPPPPPPPPPQPPPPPPPPPPPPPPP",
  "PPPPPPPPPPPPPPPPPPPPPPPPPPPPPPPQPPPPRQPPPQPRQSPQPRRQPQPPPPPQPPQPPQPRPPPQRPVPQPQPQPPPPPPPPPPPPPPP",
  "QPPPPPPPPPPPPPPPPPQPQPPRPPPPPPPPPPPPPPPPPPPPPPPPPPPPPPPPPPPPPPPPPPPPPPPPPPPPPPPPPPVQPQQPPSPPPPPP",
  "PP(iPPPRPWPUPPRPPPQPaPXsPQRRPPPPPPPPPPPPPPPPPPPPPPPTPQPPQQ#V#SPPPPPPPPPPPPPPPPPPPPPPPPPPPPPPPPPX",
  "PPPPPPPPPPPPPPPPPPPPPPPPPPPPPPPPPPPPPPPPPPPPPPPPPPPPPPQPPPPPPPPPPPPQPPPPPPPPPPPPPPPPPPPPPPPPPPPP",
  "PPPPPPPPPPPPPPPPPPPPPPPPPPPPPPPPPPPPPPPPPPPPPPPPPPPPPPPPPPPPPPPPPPPQv#7mvPPTP2b#z#(Q|QR)[PPPPPPP",
  "PPPPPPPPPPPPPPPPPPPPPPPPPPPPPPPPPPPPPPPPPPPPPPPPPPPPPPPPPPPPPPPPPPPPPPPPPPPPPPPPPPPPPPPPPPPPPPPP",
  "PPPPPPPPPPPPPPPPPPPPPPPPPPPPPPPPPPPPPPPPPPPPPPXPPPPPPPPPPPPPPPPPPPPPPPPPPPPPPPPPPPPPPPPPPPPPPPPP",
  "PPPPPPPPPPPPPPPPPPPPPPPPPPPPPPPPPPPPPPPPPPPPPPPPXWWUYWWWWUZPPPPPPPWW#lS[S[S[TZS'zPSPRRQRQPRTUPPP",
  "PPPSQSYQTPj`cP4jjLt#S#SPPRQPPPPPPSPPQPWRPPPPPPPPPPPPPPPPPPPPPPPPPPPPPPPPPPPPPPPPPPPPPPPPPPPPPPPP",
  "PPPPPPPPPPPPPPPPPPPPPPPPPPPPPPPPPPPPPPPPPPWPPPSP2#qPPPPPPPPPPPPPPPPPPPPPPPPPPPPPPPPPPPPPPPPPPPPP",
  "cPPPPPPPPPPPPPPPPPPPPPPPPPPP%RPPPPPPPPPPPPPRPPPPPPPPPPPPPPPPPPPPPPPPPPPPPPPPPPPPPPPPPPPPPPPPPPPP",
  "PPPPPPPPPYPPPPQPPPPPPPPSPPPQPPPRPPPPPPPPPPPPPPPPPPPPTPTPPPPPPPPPPPPPPPSPPUPTPPPlP-9Vj=qx%St%hZP_",
  "PVPQKY#V#;ap-/dp/5[jjjjjjPPQQPQQQSPWjjjQPSQWPVkQPSPTPPRVkjjjjjjjjjjjniqiqiqiqiqP$.Tr#$vjUjUj"
]

def titleBounds : List String := [
  ",]PQPQPvP%KTWWWWW[P_P#RP"
]

def casedBounds : List String := [
  "#ejUj#RPYPSPTgPoP&cPSS&pPtVQnT$WPzSQQQSPPUPPRPPPdP#wP%VW%rPvXy#6gvPPTPQ|QR1[#zQU#'fXV|QR#d&`#d(^",
  "QUQvQUQWPPPPPPPoQ#XPVPPRRPVRSQUS]TRPV$lP]P`]$]PSPQYPPRTUPPPPPPSPUSPQSTTSPapRQ4i#WLY'XUSRQ[vPPTP2",
  "!b#Qbn%O$^RSP#_TQPPPTkQPR4m|P]V#t,7SV[T9ejUj=P#t$WtSt$lZP_PVPQPZP_PVPQ,ZPQRPzPX=q#V]#V#9y#d-.p#d",
  "/4h#yP#kPQQPQQQSP[PPPVP#ePSQWPVPlPSPTPPRVP)pQiPiPoPiPoPiPoPiPoPiPWLxYPd#/e#h#$SjUjUj"
]

/-- Characters that case mapping looks through, such as marks and apostrophes. -/
def caseIgnorableBounds : List String := [
  "wPUPZPsPPP#kPSPPPSPQQ-c&`SQSPXQPP'oV&oPTP#T#PPPPQPQPP#OPZUYZPPsPYe`P$]WPYPSqPPPnk$RZ#^ZSPQPhh|R#",
  "OPVQUWy#^#ZPPPSWSPRVYQ]P_P#^PSSWPdQjPQQ#]PSQSQQRRPnQRPZQ#]PSTPQSPdQfUPP#^PQPPSWPVQZQnP#aP[P#UPRP",
  "#ZPPRTRPSVQZQmP#^PQPUPTQdQlQ#]QSSWPdQmP#lPVRPP$QPQVZX$YPQXXPPU#nQkPPPPP#Z^PTPQTZPtXP$^SPUPQQQiQS",
  "R`S]PQQUP_P$UP/tR7fRmQnQnQ#dQPVWPQZRPTP#PT#VP#eQrP$nRSQXPUR&|QQP#^PPVPPPPQWUYQPwPWo#TS#SPPTPPTPx",
  "X[QpSQQPR#[PPQRPPR#^WQQ#dU#vRP]PVSPUPRQ#U#c]Pr$],TPPRZR]R]R]Q[TWQYPQPQT#TTPYPP]P`]#Vq#9VQ$iR$uP_",
  "P$Wp#RP,mPtSRTTP$TU$TR0A^P>bU(UP$YSPYPPlS#tQ^r#rPgR$_RRQWPRPSPiQTP%cQjb]PvWiZ#QR#SPQSQQaPeQ#fUQQ",
  "QQ[PWPsPZP#VPPRQQTQPPkP^QTQPP$[TXR$qPQPSP,6pP%_a/P`RP[`rPQP%uPVPUPZPsPPP#RP#PQ#gPeR-mP'UP%aT9aUP",
  "zPX/YRPQTSxRSP%qQ/PS*sQ%eZ#TS$sP#Y_yPQQYR#TSQQQPSPYP#URtTPW#bP[Q#WXYSQP$VRQPPQUP%lPRWeQ#]QRPuVRT",
  "&cWQRPPgP#xUPPSQPQ'bSUQPQkQ#yWQPPQ$bPPPQUPP$]RQSPT'wXPQ'tQPPSP%[SQQSPpYxUQSWPXUQR#Q]PQ+YVPUPP#vf",
  "QVPQPQ$rURPPQPVPP#lQRPPP)wQ$FgX),_T#_VXS9gP#ca#dQPQ*6kSPVPQ#?bQPS$4t#QQg.`RX`QVnS%`R#!|#ZS#UWP^P",
  "fTP_AxVPaQVPQPT'y^*`P#aSEWV$eW#4VT+-F]Pn$W$x'd"
]

def spaceBounds : List String := [
  "XT^T$[PjP$JZP#-ZZmQTP#RP$$xP"
]

/-- The lower case of single characters, in groups. -/
def lowerMap : List String := [
  "#ejP#d$^gP#dQVP#drhQQSRQQRWQQRgQQQPP'ePRQQSPP+hPQQQQPP+`PPPQQQP+^PPPQRPP%jPPP+WPPP+YPPPQQPP+^PPP",
  "+bQPP+jPPP+fPPPQSPP+jPPP+nQPP+pPRQQQPP+xPPPQQPP+xRPPQQPP+xPPPQQQP+vPQQQQPP+zPPPQSPPQWPPSPPPQQPPS",
  "PPPQQPPSPXQQRXQQRPPSPQQQQPP&aPPP$gPdQQQPP'wQXQQWPP-(nPPPQQPP)aPPP-(hRPPQQPP*uPPP%UPPP%YPTQQ(jQQQ",
  "SPPQXPP'[VPP#pQRP#nQPP$xQQP$vQaP#dQXP#dtPP`X[QQUPP$oRPPQQPP]PPPQRRP'wP`P%lPpP#d#TaQQYkQQQPPnPVQQ",
  "R#SQQRvP$W#7nvP)8WQPP)8WUPP)8W2c#tPK(hPUP`#(R|P%&oRRP%&o)]#oQQYPP)ITQ#SQQYWP_XUP_ZWP_XWP_XUP_[SQ",
  "_XWP_iWP_XWP_XWP_XQP_PQP%_PPPa[SP%wPPPa[QP_PQP&g]QP_PQP'RPPP][QP'sPQP'oPPPa(rPP)DmSPP*?PPPP*9gVP",
  "P#[#Q`PpdPPQ4kjP#WLu#SP$W#TPPQQPP-&]PPP%L_PPP-%iRRQQQPP-'|PPP-&iPPP-(TPPP-(RQPPQRPPQXQP-)iP#UQQX",
  "QQQTPPQ2#rgQQd^QQ%SVQQSoQQZQQQQPPG7|PTQQTPPQQPPN?sRQQQSYQQQPPNBRPPPNBiPPPNBaPPPNAyPPPNBRQPPN>sPP",
  "PN?wPPPN>yPPPMWPWQQQPP$VPPPNBPPPPG:_PQQQVPPQUQQQmPPQ-9WjP#d=rxP#t%TtP#t%iZP#rQ_P#rQVP#rQQP#rKZ#V",
  "P$x#;bpP#d-/epP#d2+erP#h"
]

/-- The characters whose lower case is longer than one character. -/
def lowerMapLong : List String := [
  "(xQ+P7b"
]

/-- The upper case of single characters, in groups. -/
def upperMap : List String := [
  "$XjP#c#_PPDr|gP#cQVP#cPPP'fQhQPQPP,gQRQPRWQPRgQPRRQPPPP/kPPP*vRQQPRPPPSPPPUPPPRPP&bSPPPPPP)bSPP'",
  "xRRQPRPPPTPPPRPPPSQQPRPPPSPPPQPP$hUPPPPPPRQPPPPPPRQPPPPPPRQWQPPPP%iQXQPRPPPPPPRQPPPSdQPSXQPXPPPR",
  "QP-)jQPPPTTQPPPP-(UPPP-(OPPP-(SPPP+gPPP+_QQP+]QPP+VQPP+XPPPNBjSPP+]PPPNBbQPP+aQPPN?tPPPNBSQPP+eP",
  "PP+iPPPNBSPPP-&^PPPNAzRPP+iQPP-&jPPP+mRPP+oWPP-%jRPP+wQPPNBQPPP+wSPPN?xPPP+wPPP%TPQP+uPPP%XUPP+y",
  "ZPPN>zPPPN>t%sPP%t#OQQPSPPPSRP'x#RPP#oPRP#mQaP#cPPP#aPXP#cPPP$wPQP$uQPP$sPPP$iSPP$TPPP$cPPP_Q[QP",
  "PPP%wPPP%kPPP^PPP'ZQPP&_RPPPRPPP#XpP#cP`P%kQaQPYkQPRVQPPPPmQ#SQP#UvP$V#7n|P%&pRRP%&p3]UP_#'gPP(6",
  "ZPPP(6XPPP(5sPQP(5oPPP(5qPPP(5cPPP(2yPPPG5O'ePPG8OSPP%L`aPPG:`$k#oQPUPP$mU#SQPPWP`XUP`ZWP`XWP`XU",
  "P`[SQ`XWP`XQP%`PSP%xPQP&hPQP'tPQP'SPQP'p#VQP`]PP)5ebQP`_QP`SPP^*XPP#Zr`PoTPPP5WjP#VM_#SP$VQPPPSP",
  "P-(mPPP-(gQRQPVPPPRPPPZ#UQPXQQPTPPP]vP)8VQPP)8VUPP)8V2!dgQPd^QP%SVQPSoQPZQQPRTQPTPPPTQQPPPP$WRYQ",
  "P[WQPTQQPVPPPUQQPmPPP5iPPMVm#tPK(g-#vjP#c=zxP#s%TtP#s%hZP#qQ_P#qQVP#qQQP#qKt#VP$w#:npP#c-/epP#c2",
  "+grP#g"
]

/-- The characters whose upper case is longer than one character. -/
def upperMapLong : List String := [
  "'RQ(_(_$bQ2v-a%sQ5V.x+dRb(V(epRe)k)y,oQ%o$a%/sQ*!k),qPQ*!T).mPQ*!P).kPQ)N|).mPQ*#T)2V&UQ)/y)6iQR",
  ")0P)6m)7gQR)0T)6q)7iQR)0X)6u)4ozQ'c)2mPQ'c)2oPQ'c)2qPQ'c)2sPQ'c)2uPQ'c)2wPQ'c)2yPQ'c)2|PQ's)3PPQ",
  "'s)3RPQ's)3TPQ's)3VPQ's)3XPQ's)3ZPQ's)3]PQ's)3_PQ&o)3aPQ&o)3cPQ&o)3ePQ&o)3gPQ&o)3iPQ&o)3kPQ&o)3m",
  "PQ&o)3oPQ'R)3qPQ'R)3sPQ'R)3uPQ'R)3wPQ'R)3yPQ'R)3|PQ'R)4PPQ'R)4RPQ$g)4TPQ$g)4VPQ$g)4XPQ$g)4ZPQ$g)",
  "4]PQ$g)4_PQ$g)4aPQ$g)4cPQ$w)4ePQ$w)4gPQ$w)4iPQ$w)4kPQ$w)4mPQ$w)4oPQ$w)4qPQ$w)4sRQ`)4yPQ)5_)4|PQ)",
  "5w)5PQQ)5e)9RPR)5g)9T)5VTQ)5q)5aUQ`)5mPQ)5s)5oPQ)6e)5qQQ)5y)9sPR)5|)9u)5wTQ)6X)6TUR)6a)<|)=_PR)6",
  "c)=P)=_RQ)6i):gPR)6k)=X):iZR)6i)=o)>RPR)6k)=q)>RPQ)6u)=]QQ)6q);ZPR)6s)=y);]ZQ`)7uPQ)7V)7wPQ)8a)7",
  "yQQ)7]);|PR)7_)<P)8RTQ)7i)8]>M[Q#8/g#8/gPQ#8/i#8/cPQ#8/k#8/_PR#8/m#8/m#8/gPR#8/o#8/o#8/cPQ#8/V#8",
  "/TPQ#8/X#8/V]Q#7!]#7!XPQ#7!_#7#PPQ#7!a#7!sPQ#6N|#7!_PQ#7!e#7!s"
]

/-- The title case of single characters, in groups. -/
def titleMap : List String := [
  "$XjP#c#_PPDr|gP#cQVP#cPPP'fQhQPQPP,gQRQPRWQPRgQPRRQPPPP/kPPP*vRQQPRPPPSPPPUPPPRPP&bSPPPPPP)bSPP'",
  "xRRQPRPPPTPPPRPPPSQQPRPPPSPPPQPP$hTPPQQPPPPPPQQPPPPPPQQXQPPPP%iQXQPQPPQQQQPSdQPSXQPXPPPRQP-)jQPP",
  "PTTQPPPP-(UPPP-(OPPP-(SPPP+gPPP+_QQP+]QPP+VQPP+XPPPNBjSPP+]PPPNBbQPP+aQPPN?tPPPNBSQPP+ePPP+iPPPN",
  "BSPPP-&^PPPNAzRPP+iQPP-&jPPP+mRPP+oWPP-%jRPP+wQPPNBQPPP+wSPPN?xPPP+wPPP%TPQP+uPPP%XUPP+yZPPN>zPP",
  "PN>t%sPP%t#OQQPSPPPSRP'x#RPP#oPRP#mQaP#cPPP#aPXP#cPPP$wPQP$uQPP$sPPP$iSPP$TPPP$cPPP_Q[QPPPP%wPPP",
  "%kPPP^PPP'ZQPP&_RPPPRPPP#XpP#cP`P%kQaQPYkQPRVQPPPPmQ#SQP#UvP$V#KQUP_#'gPP(6ZPPP(6XPPP(5sPQP(5oPP",
  "P(5qPPP(5cPPP(2yPPPG5O'ePPG8OSPP%L`aPPG:`$k#oQPUPP$mU#SQPPWP`XUP`ZWP`XWP`XUP`[SQ`XWP`XQP%`PSP%xP",
  "QP&hPQP'tPQP'SPQP'pRWP`XWP`XWP`XQP`QPPbZPP)5eTPPb]QP`_QP`SPP^^PPb)wPP#Zr`PoTPPP5WjP#VM_#SP$VQPPP",
  "SPP-(mPPP-(gQRQPVPPPRPPPZ#UQPXQQPTPPP]vP)8VQPP)8VUPP)8V2!dgQPd^QP%SVQPSoQPZQQPRTQPTPPPTQQPPPP$WR",
  "YQP[WQPTQQPVPPPUQQPmPPP5iPPMVm#tPK(g-#vjP#c=zxP#s%TtP#s%hZP#qQ_P#qQVP#qQQP#qKt#VP$w#:npP#c-/epP#",
  "c2+grP#g"
]

/-- The characters whose title case is longer than one character. -/
def titleMapLong : List String := [
  "'RQ(_&w$bQ2v-a%sQ5V.x+dRb(V(epRe)k)y,oQ%oX%/sQ*!k),qPQ*!T).mPQ*!P).kPQ)N|).mPQ*#T)2V&UQ)/y)6iQR)",
  "0P)6m)7gQR)0T)6q)7iQR)0X)6u)4o$SQ`)8qQQ)5w)8uQQ)5e)9RPR)5g)9T)8|ZQ`)9eQQ)6e)9iQQ)5y)9sPR)5|)9u)9",
  "oZR)6a)<|)=_PR)6c)=P)=_RQ)6i):gPR)6k)=X):iZR)6i)=o)>RPR)6k)=q)>RPQ)6u)=]QQ)6q);ZPR)6s)=y);]ZQ`);",
  "mQQ)8a);qQQ)7]);|PR)7_)<P);w>MaQ#8/g#8.RPQ#8/i#8-|PQ#8/k#8-wPR#8/m#8.X#8.RPR#8/o#8.Z#8-|PQ#8/V#8",
  "-mPQ#8/X#8-o]Q#7!]#6MPPQ#7!_#6MuPQ#7!a#6MkPQ#6N|#6MVPQ#7!e#6Mk"
]

/-- The case folding of single characters, in groups. -/
def foldMap : List String := [
  "#ejP#d$RPPFYZgP#dQVP#drhQQSRQQRWQQRgQQQPP'ePRQQQPP.VQPP+hPQQQQPP+`PPPQQQP+^PPPQRPP%jPPP+WPPP+YPP",
  "PQQPP+^PPP+bQPP+jPPP+fPPPQSPP+jPPP+nQPP+pPRQQQPP+xPPPQQPP+xRPPQQPP+xPPPQQQP+vPQQQQPP+zPPPQSPPQWP",
  "PSPPPQQPPSPPPQQPPSPXQQRXQQRPPSPQQQQPP&aPPP$gPdQQQPP'wQXQQWPP-(nPPPQQPP)aPPP-(hRPPQQPP*uPPP%UPPP%",
  "YPTQQ'kPP'[|QQQSPPQXPP'[VPP#pQRP#nQPP$xQQP$vQaP#dQXP#dgPPQ]PP`PPP#_PPP#TSPPmPPP|Q[QQQPP$cPPP$VRP",
  "P$oPPP$wQPPQQPP]PPPQRRP'wP`P%lPpP#d#TaQQYkQQQPPnPVQQR#SQQRvP$W#7nvP)8WQPP)8WUPP)8W4cUP_#'gPP(4sP",
  "PP(4qPPP(4_PQP(4ZPPP(4]PPP(3|PPP(2wPPPG5QW|P%&oRRP%&o)]#oQQVPP$kT#SQQYWP_XUP_ZWP_XWP_XUP_[SQ_XWP",
  "_#mQP_PQP%_RPP)4PYSP%w]QP_PQP&g]QP_PQP'RPPP][QP'sPQP'o(sPP)DmSPP*?PPPP*9gVPP#[#Q`PpdPPQ4kjP#WLu#",
  "SP$W#TPPQQPP-&]PPP%L_PPP-%iRRQQQPP-'|PPP-&iPPP-(TPPP-(RQPPQRPPQXQP-)iP#UQQXQQQTPPQ2#rgQQd^QQ%SVQ",
  "QSoQQZQQQQPPG7|PTQQTPPQQPPN?sRQQQSYQQQPPNBRPPPNBiPPPNBaPPPNAyPPPNBRQPPN>sPPPN?wPPPN>yPPPMWPWQQQP",
  "P$VPPPNBPPPPG:_PQQQVPPQUQQQmPPQ6Z#tPK(g-#UjP#d=rxP#t%TtP#t%iZP#rQ_P#rQVP#rQQP#rKZ#VP$x#;bpP#d-/e",
  "pP#d2+erP#h"
]

/-- The characters whose case folding is longer than one character. -/
def foldMapLong : List String := [
  "'RQ&w&w#uQ+P7biQ2v+y%sQ3o.x+dR#v(V(epRz)k)y,oQ#gX%/sQ)NV),qPQ)Mm).mPQ)Mi).kPQ)Mg).mPQ)Nm)2VSQ)NP",
  ")NP&QQ).e)6iQR).i)6m)7gQR).m)6q)7iQR).q)6u)4ozQ's)1XPQ's)1ZPQ's)1]PQ's)1_PQ's)1aPQ's)1cPQ's)1ePQ",
  "'s)1gPQ(V)1iPQ(V)1kPQ(V)1mPQ(V)1oPQ(V)1qPQ(V)1sPQ(V)1uPQ(V)1wPQ'R)1yPQ'R)1|PQ'R)2PPQ'R)2RPQ'R)2T",
  "PQ'R)2VPQ'R)2XPQ'R)2ZPQ'c)2]PQ'c)2_PQ'c)2aPQ'c)2cPQ'c)2ePQ'c)2gPQ'c)2iPQ'c)2kPQ$w)2mPQ$w)2oPQ$w)",
  "2qPQ$w)2sPQ$w)2uPQ$w)2wPQ$w)2yPQ$w)2|PQ%Z)3PPQ%Z)3RPQ%Z)3TPQ%Z)3VPQ%Z)3XPQ%Z)3ZPQ%Z)3]PQ%Z)3_RQ$",
  "|)3ePQ)3w)3gPQ)4V)3iQQ)4P)9RPR)4R)9T)3oTQ)4])3yUQ%g)4XPQ)4_)4ZPQ)4s)4]QQ)4e)9sPR)4g)9u)4cTQ)4q)4",
  "mUR)4y)<|)=_PR)4|)=P)=_RQ)5T):gPR)5V)=X):iZR)5T)=o)>RPR)5V)=q)>RPQ)5a)=]QQ)5]);ZPR)5_)=y);]ZQ'_)",
  "6aPQ)5o)6cPQ)5g)6eQQ)5u);|PR)5w)<P)6kTQ)6T)6u>M[Q#8.R#8.RPQ#8.T#8-|PQ#8.V#8-wPR#8.X#8.X#8.RPR#8.",
  "Z#8.Z#8-|PQ#8-o#8-mPQ#8-q#8-o]Q#6MT#6MPPQ#6MV#6MuPQ#6MX#6MkPQ#6Ls#6MVPQ#6M]#6Mk"
]

end Dashwright.Text.Unicode
